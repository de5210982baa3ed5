import CpeCloud.Wireguard.Conf

/-!
# What a sync keeps of the server's own file

A sync writes the file anew from what it reads of it, so what `_read_interface_block` keeps is all
that is left of the server's own settings.

* **`resync_run`**: syncing again and again is syncing once, with the last peers: nothing piles up
  and nothing wears off.
* **`keepsOwnLines_iff`**: the lines in front of the first peer header or the marker line are kept
  iff neither of the two texts occurs inside one of them. The search knows nothing of lines, so a
  comment that names `[Peer]` cuts the file where it stands.
-/

namespace CpeCloud

open Text

/-! ## Syncing again and again -/

/-- `_render_config(_read_interface_block(file), peers)`. -/
def resync (file : Text) (peers : List PeerRow) : Text :=
  renderConfig (readInterfaceBlock file) peers

theorem readInterfaceBlock_resync (file : Text) (peers : List PeerRow) :
    readInterfaceBlock (resync file peers) = readInterfaceBlock file :=
  readInterfaceBlock_render file peers

/-- The block read back after any number of syncs. -/
theorem readInterfaceBlock_resyncs (file : Text) (runs : List (List PeerRow)) :
    readInterfaceBlock (runs.foldl resync file) = readInterfaceBlock file := by
  induction runs generalizing file with
  | nil => rfl
  | cons peers runs ih => rw [List.foldl_cons, ih, readInterfaceBlock_resync]

/-- **Repeated syncs neither accumulate nor erode the file.** -/
theorem resync_run (file : Text) (runs : List (List PeerRow)) (peers : List PeerRow) :
    (runs ++ [peers]).foldl resync file = resync file peers ∧
      readInterfaceBlock ((runs ++ [peers]).foldl resync file) = readInterfaceBlock file := by
  refine ⟨?_, readInterfaceBlock_resyncs file _⟩
  rw [List.foldl_append, List.foldl_cons, List.foldl_nil, resync, readInterfaceBlock_resyncs]
  rfl

/-! ## The server's own lines -/

/-- A line outside its comment, trimmed. -/
def outsideComment (line : Text) : Text := strip (line.takeWhile (· != '#'))

/-- The line is a peer header, or the marker. -/
def endsBlock (line : Text) : Bool := outsideComment line = peerHeader ∨ line = managedMarker

/-- The lines in front of the first one that ends the block. -/
def ownLines (content : Text) : List Text := (lines content).takeWhile fun l => !endsBlock l

/-- The file's own lines are kept, up to whitespace at their end. -/
def KeepsOwnLines (raw : Text) : Prop :=
  rstrip (joinLines (ownLines (normalize raw))) <+: readInterfaceBlock raw

instance (raw : Text) : Decidable (KeepsOwnLines raw) := by
  unfold KeepsOwnLines
  infer_instance

instance (block : Text) : Decidable (Unmarked block) := by
  unfold Unmarked
  infer_instance

theorem joinLines_lines : ∀ s : Text, joinLines (lines s) = s
  | [] => rfl
  | c :: s => by
    have ih := joinLines_lines s
    simp only [lines]
    split
    · rename_i hc
      rw [joinLines_cons _ (lines_ne_nil s), ih, hc]
      rfl
    · cases h : lines s with
      | nil => exact absurd h (lines_ne_nil s)
      | cons l ls =>
        rw [h] at ih
        rw [← ih]
        cases ls <;> rfl

theorem joinLines_append {as bs : List Text} (ha : as ≠ []) (hb : bs ≠ []) :
    joinLines (as ++ bs) = joinLines as ++ '\n' :: joinLines bs := by
  induction as with
  | nil => exact absurd rfl ha
  | cons a as ih =>
    cases as with
    | nil => exact joinLines_cons a hb
    | cons a' as =>
      rw [List.cons_append, joinLines_cons a (by simp), ih (by simp), joinLines_cons a (by simp)]
      simp

/-- A line that ends the block has one of the two texts behind nothing but whitespace. -/
theorem endsBlock_spec {l : Text} (h : endsBlock l = true) : ∃ w needle t, l = w ++ needle ++ t ∧
    (∀ c ∈ w, isSpace c = true) ∧ (needle = managedMarker ∨ needle = peerHeader) := by
  simp only [endsBlock, decide_eq_true_eq] at h
  rcases h with h | rfl
  · obtain ⟨w, t, hs, hw⟩ := exists_append_strip (l.takeWhile (· != '#'))
    refine ⟨w, peerHeader, t ++ l.dropWhile (· != '#'), ?_, hw, Or.inr rfl⟩
    rw [← List.append_assoc, ← h, outsideComment, ← hs, List.takeWhile_append_dropWhile]
  · exact ⟨[], managedMarker, [], by simp, by simp, Or.inl rfl⟩

/-- A content is its own lines, or its own lines and, behind whitespace, one of the two texts; no
search that misses the lines ends in front of that. -/
theorem ownLines_spec (content : Text) : joinLines (ownLines content) = content ∨
    ∃ p w needle t, content = p ++ w ++ needle ++ t ∧ (∀ c ∈ w, isSpace c = true) ∧
      (needle = managedMarker ∨ needle = peerHeader) ∧
      rstrip p = rstrip (joinLines (ownLines content)) ∧ joinLines (ownLines content) <+: p ∧
      ∀ n : Text, n ≠ [] → '\n' ∉ n → ¬ n <:+: joinLines (ownLines content) →
        ∀ i, find n content = some i → p.length ≤ i := by
  have hsplit := List.takeWhile_append_dropWhile (p := fun l => !endsBlock l) (l := lines content)
  cases hrest : (lines content).dropWhile fun l => !endsBlock l with
  | nil =>
    refine Or.inl ?_
    rw [hrest, List.append_nil] at hsplit
    rw [ownLines, hsplit, joinLines_lines]
  | cons l ls =>
    right
    have hl : endsBlock l = true := by
      have := List.head_dropWhile_not (fun l => !endsBlock l) (l := lines content) (by simp [hrest])
      simpa [hrest] using this
    obtain ⟨w, needle, t, hl, hw, hn⟩ := endsBlock_spec hl
    have htail : ∃ u, joinLines (l :: ls) = w ++ needle ++ t ++ u := by
      cases ls with
      | nil => exact ⟨[], by simp [joinLines, hl]⟩
      | cons m ms => exact ⟨'\n' :: joinLines (m :: ms), by simp [joinLines, hl]⟩
    obtain ⟨u, hu⟩ := htail
    have hcontent : joinLines (ownLines content ++ l :: ls) = content := by
      rw [ownLines, ← hrest, hsplit, joinLines_lines]
    by_cases hown : ownLines content = []
    · rw [hown, List.nil_append, hu] at hcontent
      exact ⟨[], w, needle, t ++ u, by simp [← hcontent], hw, hn, by rw [hown]; rfl,
        by rw [hown]; exact List.prefix_refl _, fun _ _ _ _ _ _ => Nat.zero_le _⟩
    · rw [joinLines_append hown (by simp), hu] at hcontent
      refine ⟨joinLines (ownLines content) ++ ['\n'], w, needle, t ++ u,
        hcontent.symm.trans (by simp), hw, hn, rstrip_append_space _ (by decide),
        List.prefix_append _ _, ?_⟩
      intro n hne hnl hno i hi
      rw [← hcontent, find_append_line hnl hne _ hno] at hi
      obtain ⟨j, -, rfl⟩ := Option.map_eq_some_iff.mp hi
      simp

theorem searched {needle : Text} (h : needle = managedMarker ∨ needle = peerHeader) :
    needle ≠ [] ∧ '\n' ∉ needle ∧ ∃ s c, needle = s ++ [c] ∧ s ≠ [] ∧ isSpace c = false := by
  rcases h with rfl | rfl
  · exact ⟨by decide, by decide, managedMarker.dropLast, '-', by decide, by decide, by decide⟩
  · exact ⟨by decide, by decide, peerHeader.dropLast, ']', by decide, by decide, by decide⟩

/-- If neither text occurs in them, the block is the file's own lines. -/
theorem interfaceBlock_own {content : Text} (h : Unmarked (joinLines (ownLines content))) :
    interfaceBlock content = rstrip (joinLines (ownLines content)) ++ ['\n'] := by
  have hno {n : Text} (hn : n = managedMarker ∨ n = peerHeader) :
      ¬ n <:+: joinLines (ownLines content) := by
    rcases hn with rfl | rfl
    · exact h.1
    · exact h.2
  obtain ⟨k, hk, hm, hp, hcut⟩ := interfaceBlock_cut content
  have hfound : k = content.length ∨
      ∃ n, (n = managedMarker ∨ n = peerHeader) ∧ find n content = some k := by
    rcases hcut with hcut | hcut | hcut
    · exact Or.inl hcut
    · exact Or.inr ⟨_, Or.inl rfl, hcut⟩
    · exact Or.inr ⟨_, Or.inr rfl, hcut⟩
  rw [hk]
  rcases ownLines_spec content with hall | ⟨p, w, needle, t, hc, hw, hn, hr, -, hlow⟩
  · rcases hfound with rfl | ⟨n, hn, hfind⟩
    · rw [List.take_length, hall]
    · exact absurd (isInfix_of_find hfind) (hall ▸ hno hn)
  · have hle : k ≤ (p ++ w).length := by
      obtain ⟨i, hi, hfind⟩ := exists_find_le needle t (p ++ w)
      rw [← hc] at hfind
      rcases hn with rfl | rfl
      · exact (hm i hfind).trans hi
      · exact (hp i hfind).trans hi
    have hge : p.length ≤ k := by
      rcases hfound with rfl | ⟨n, hn, hfind⟩
      · simp [hc]
      · exact hlow n (searched hn).1 (searched hn).2.1 (hno hn) k hfind
    have htake : content.take k = p ++ w.take (k - p.length) := by
      rw [hc, List.append_assoc _ needle, List.take_append_of_le_length hle, List.take_append,
        List.take_of_length_le hge]
    rw [htake, rstrip_append_spaces p fun c hc => hw c (List.mem_of_mem_take hc), hr]

theorem keepsOwnLines_of_unmarked {raw : Text}
    (h : Unmarked (joinLines (ownLines (normalize raw)))) : KeepsOwnLines raw := by
  rw [KeepsOwnLines, readInterfaceBlock, interfaceBlock_own h]
  exact List.prefix_append _ _

theorem joinLines_ownLines_isPrefix (content : Text) :
    joinLines (ownLines content) <+: content := by
  rcases ownLines_spec content with hall | ⟨p, w, needle, t, hc, -, -, -, hp, -⟩
  · rw [hall]
  · exact hp.trans ⟨w ++ needle ++ t, by rw [hc]; simp⟩

/-- One of the two texts inside the file's own lines cuts them short. -/
theorem unmarked_of_keepsOwnLines {raw : Text} (h : KeepsOwnLines raw) :
    Unmarked (joinLines (ownLines (normalize raw))) := by
  obtain ⟨z, hz⟩ := joinLines_ownLines_isPrefix (normalize raw)
  obtain ⟨k, hk, hm, hp, -⟩ := interfaceBlock_cut (normalize raw)
  have hcut {n : Text} (hn : n = managedMarker ∨ n = peerHeader) :
      ¬ n <:+: joinLines (ownLines (normalize raw)) := by
    rintro ⟨x, y, hxy⟩
    obtain ⟨-, -, s, c, hsc, hs, hc⟩ := searched hn
    have hle : k ≤ x.length := by
      obtain ⟨i, hi, hfind⟩ := exists_find_le n (y ++ z) x
      rw [← List.append_assoc, hxy, hz] at hfind
      rcases hn with rfl | rfl
      · exact (hm i hfind).trans hi
      · exact (hp i hfind).trans hi
    have hkept : x ++ s ++ [c] <+: rstrip (joinLines (ownLines (normalize raw))) := by
      rw [← hxy, hsc, ← List.append_assoc x s]
      exact isPrefix_rstrip (x ++ s) hc y
    have hlong := (hkept.trans h).length_le
    have hshort := (rstrip_isPrefix ((normalize raw).take k)).length_le
    have := List.length_pos_of_ne_nil hs
    rw [readInterfaceBlock, hk] at hlong
    simp only [List.length_append, List.length_cons, List.length_nil, List.length_take] at hlong hshort
    omega
  exact ⟨hcut (Or.inl rfl), hcut (Or.inr rfl)⟩

/-- **When the server's own lines survive a sync.** Then nothing else is kept with them. -/
theorem keepsOwnLines_iff (raw : Text) :
    (KeepsOwnLines raw ↔ Unmarked (joinLines (ownLines (normalize raw)))) ∧
      (Unmarked (joinLines (ownLines (normalize raw))) → readInterfaceBlock raw =
        rstrip (joinLines (ownLines (normalize raw))) ++ ['\n']) :=
  ⟨⟨unmarked_of_keepsOwnLines, keepsOwnLines_of_unmarked⟩, interfaceBlock_own⟩

/-- A comment in front of the private key that names `[Peer]`. -/
def commentedConf : Text :=
  ("[Interface]\nListenPort = 51820\n# the [Peer] sections are generated\n" ++
    "PrivateKey = SERVER_PRIVATE_KEY\n").toList

/-- The private key behind it is gone after the next sync. -/
theorem commentedConf_not_kept : ¬ (∀ raw, KeepsOwnLines raw) ∧
    "PrivateKey = SERVER_PRIVATE_KEY".toList ∈ ownLines commentedConf ∧
    readInterfaceBlock commentedConf =
      "[Interface]\nListenPort = 51820\n# the\n".toList :=
  ⟨fun h => absurd (h commentedConf) (by decide +kernel), by decide +kernel, by decide +kernel⟩

end CpeCloud

import CpeCloud.Lib.Text

/-!
# The text of `wg0.conf` (`app/services/wireguard.py`)

`renderConfig` writes the interface block, the managed marker and one stanza per peer;
`interfaceBlock` reads the block back from a file. The managed part of a file is what starts at
the first marker.

* `find_marker_render`: in a rendered file, the first marker is the one the renderer wrote.
* **`readInterfaceBlock_render`**: the block read back from a rendered file is the block it was
  rendered with, whatever the peers' identities contain.
* `managedPart_render`: the managed part is the marker line and the stanzas.
-/

namespace CpeCloud

open Text

/-- `PeerRow`. -/
structure PeerRow where
  identity : Text
  publicKey : Text
  /-- Dotted decimal, no prefix. -/
  overlayIp : Text
  deriving DecidableEq

/-- `PeerRow.to_stanza`. -/
def PeerRow.toStanza (p : PeerRow) : Text :=
  "# ".toList ++ p.identity ++ "\n[Peer]\nPublicKey = ".toList ++ p.publicKey ++
    "\nAllowedIPs = ".toList ++ p.overlayIp ++ "/32\nPersistentKeepalive = 25\n".toList

/-- `MANAGED_MARKER`. -/
def managedMarker : Text :=
  "# --- managed peers (do not edit below; regenerated from Postgres) ---".toList

/-- The header `_read_interface_block` looks for next to the marker. -/
def peerHeader : Text := "[Peer]".toList

/-- What precedes the first marker or peer header of a text. -/
def interfaceBlock (content : Text) : Text :=
  match find managedMarker content, find peerHeader content with
  | none, none => rstrip content ++ ['\n']
  | some i, none => rstrip (content.take i) ++ ['\n']
  | none, some j => rstrip (content.take j) ++ ['\n']
  | some i, some j => rstrip (content.take (min i j)) ++ ['\n']

/-- `_read_interface_block` on the file's characters, which are read in text mode. -/
def readInterfaceBlock (raw : Text) : Text := interfaceBlock (normalize raw)

/-- `"\n".join(parts)`. -/
def joinLines : List Text → Text
  | [] => []
  | [p] => p
  | p :: ps => p ++ '\n' :: joinLines ps

/-- `_render_config`. -/
def renderConfig (block : Text) (peers : List PeerRow) : Text :=
  rstrip (joinLines ([rstrip block, [], managedMarker, []] ++ peers.map PeerRow.toStanza)) ++
    ['\n']

/-- The file from its first managed marker on. -/
def managedPart (conf : Text) : Option Text :=
  (find managedMarker conf).map conf.drop

/-! ## The shape of a rendered file -/

/-- The marker line and the stanzas, as they stand in a rendered file. -/
def managedText (peers : List PeerRow) : Text :=
  managedMarker ++ '\n' :: peers.flatMap fun p => '\n' :: p.toStanza

theorem joinLines_cons (p : Text) {ps : List Text} (h : ps ≠ []) :
    joinLines (p :: ps) = p ++ '\n' :: joinLines ps := by
  cases ps with
  | nil => exact absurd rfl h
  | cons q qs => rfl

theorem joinLines_stanzas : ∀ peers : List PeerRow,
    joinLines ([] :: peers.map PeerRow.toStanza) = peers.flatMap fun p => '\n' :: p.toStanza
  | [] => rfl
  | p :: ps => by
    rw [List.map_cons, joinLines_cons [] (by simp), List.flatMap_cons, List.nil_append]
    have ih := joinLines_stanzas ps
    cases ps with
    | nil => simp [joinLines]
    | cons q qs =>
      rw [List.map_cons, joinLines_cons _ (by simp)] at ih ⊢
      rw [← ih]
      rfl

theorem toStanza_ends (p : PeerRow) : ∃ s, p.toStanza = s ++ ['5', '\n'] :=
  ⟨"# ".toList ++ p.identity ++ "\n[Peer]\nPublicKey = ".toList ++ p.publicKey ++
    "\nAllowedIPs = ".toList ++ p.overlayIp ++ "/32\nPersistentKeepalive = 2".toList, by
    simp [PeerRow.toStanza]⟩

/-- The managed text ends in one newline behind a character that is no whitespace. -/
theorem managedText_ends (peers : List PeerRow) :
    ∃ s c, managedText peers = s ++ [c, '\n'] ∧ isSpace c = false := by
  rcases List.eq_nil_or_concat' peers with rfl | ⟨ps, p, rfl⟩
  · exact ⟨managedMarker.dropLast, '-', by decide, by decide⟩
  · obtain ⟨s, hs⟩ := toStanza_ends p
    exact ⟨managedMarker ++ '\n' :: (ps.flatMap fun p => '\n' :: p.toStanza) ++ '\n' :: s, '5',
      by simp [managedText, hs], by decide⟩

/-- **A rendered file** is its block, a blank line and the managed text. -/
theorem renderConfig_eq (block : Text) (peers : List PeerRow) :
    renderConfig block peers = rstrip block ++ '\n' :: '\n' :: managedText peers := by
  have hjoin : joinLines ([rstrip block, [], managedMarker, []] ++ peers.map PeerRow.toStanza) =
      rstrip block ++ '\n' :: '\n' :: managedText peers := by
    simp only [List.cons_append, List.nil_append]
    rw [joinLines_cons _ (by simp), joinLines_cons _ (by simp), joinLines_cons _ (by simp),
      joinLines_stanzas, managedText, List.nil_append]
  obtain ⟨s, c, hs, hc⟩ := managedText_ends peers
  have hsplit : rstrip block ++ '\n' :: '\n' :: managedText peers =
      (rstrip block ++ '\n' :: '\n' :: (s ++ [c])) ++ ['\n'] := by
    simp [hs]
  have hend : rstrip block ++ '\n' :: '\n' :: (s ++ [c]) =
      (rstrip block ++ '\n' :: '\n' :: s) ++ [c] := by
    simp
  rw [renderConfig, hjoin, hsplit, rstrip_append_space _ (by decide), hend,
    rstrip_append_nonspace _ hc]

/-! ## Reading a rendered file back -/

/-- No marker and no peer header inside. -/
def Unmarked (block : Text) : Prop := ¬ managedMarker <:+: block ∧ ¬ peerHeader <:+: block

theorem Unmarked.of_prefix {a b : Text} (h : Unmarked b) (hp : a <+: b) : Unmarked a :=
  ⟨fun hi => h.1 (hi.trans hp.isInfix), fun hi => h.2 (hi.trans hp.isInfix)⟩

theorem unmarked_take {content : Text} {k : Nat}
    (hm : ∀ i, find managedMarker content = some i → k ≤ i)
    (hp : ∀ j, find peerHeader content = some j → k ≤ j) : Unmarked (content.take k) := by
  constructor
  · cases h : find managedMarker content with
    | none => exact fun hi => find_eq_none h (hi.trans (List.take_prefix k content).isInfix)
    | some i => exact find_take (by decide) h k (hm i h)
  · cases h : find peerHeader content with
    | none => exact fun hi => find_eq_none h (hi.trans (List.take_prefix k content).isInfix)
    | some j => exact find_take (by decide) h k (hp j h)

/-- `_read_interface_block` cuts where the first of the two texts begins, if there is one. -/
theorem interfaceBlock_cut (content : Text) :
    ∃ k, interfaceBlock content = rstrip (content.take k) ++ ['\n'] ∧
      (∀ i, find managedMarker content = some i → k ≤ i) ∧
      (∀ i, find peerHeader content = some i → k ≤ i) ∧
      (k = content.length ∨ find managedMarker content = some k ∨
        find peerHeader content = some k) := by
  unfold interfaceBlock
  cases hm : find managedMarker content with
  | none =>
    cases hp : find peerHeader content with
    | none => exact ⟨content.length, by rw [List.take_length], by simp, by simp, Or.inl rfl⟩
    | some j => exact ⟨j, rfl, by simp, by simp, by simp⟩
  | some i =>
    cases hp : find peerHeader content with
    | none => exact ⟨i, rfl, by simp, by simp, by simp⟩
    | some j =>
      refine ⟨min i j, rfl, ?_, ?_, Or.inr ?_⟩
      · simp only [Option.some.injEq, forall_eq']
        exact Nat.min_le_left i j
      · simp only [Option.some.injEq, forall_eq']
        exact Nat.min_le_right i j
      · rcases Nat.le_total i j with h | h
        · exact Or.inl (by rw [Nat.min_eq_left h])
        · exact Or.inr (by rw [Nat.min_eq_right h])

/-- What `_read_interface_block` keeps holds neither of the two texts it cuts at. -/
theorem interfaceBlock_spec (content : Text) :
    ∃ b, interfaceBlock content = rstrip b ++ ['\n'] ∧ b <+: content ∧ Unmarked b := by
  obtain ⟨k, hk, hm, hp, -⟩ := interfaceBlock_cut content
  exact ⟨content.take k, hk, List.take_prefix _ _, unmarked_take hm hp⟩

theorem rstrip_interfaceBlock (content : Text) : ∃ b, b <+: content ∧ Unmarked b ∧
    rstrip (interfaceBlock content) = b ∧ interfaceBlock content = b ++ ['\n'] := by
  obtain ⟨b, hb, hpre, hu⟩ := interfaceBlock_spec content
  refine ⟨rstrip b, (rstrip_isPrefix b).trans hpre, hu.of_prefix (rstrip_isPrefix b), ?_, hb⟩
  rw [hb, rstrip_append_space _ (by decide), rstrip_rstrip]

/-- **The first marker of a rendered file is the renderer's.** -/
theorem find_marker_render {b : Text} (hu : Unmarked b) (rest : Text) :
    find managedMarker (b ++ '\n' :: '\n' :: (managedMarker ++ rest)) = some (b.length + 2) := by
  rw [find_append_line (by decide) (by decide) _ hu.1,
    show '\n' :: (managedMarker ++ rest) = [] ++ '\n' :: (managedMarker ++ rest) from rfl,
    find_append_line (by decide) (by decide) _ (by decide), find_isPrefix]
  simp
  omega

/-- A peer header of a rendered file comes behind the block and the blank line. -/
theorem le_find_peer_render {b : Text} (hu : Unmarked b) {rest : Text} {j : Nat}
    (h : find peerHeader (b ++ '\n' :: '\n' :: rest) = some j) : b.length + 2 ≤ j := by
  rw [find_append_line (by decide) (by decide) _ hu.2,
    show '\n' :: rest = [] ++ '\n' :: rest from rfl,
    find_append_line (by decide) (by decide) _ (by decide)] at h
  simp only [Option.map_map, Option.map_eq_some_iff, Function.comp] at h
  obtain ⟨i, -, rfl⟩ := h
  simp
  omega

/-- The block in front of a marker line comes back, up to its trailing whitespace. -/
theorem interfaceBlock_marked {b : Text} (hu : Unmarked b) (rest : Text) :
    interfaceBlock (b ++ '\n' :: '\n' :: (managedMarker ++ rest)) = rstrip b ++ ['\n'] := by
  have htake : (b ++ '\n' :: '\n' :: (managedMarker ++ rest)).take (b.length + 2) =
      b ++ ['\n'] ++ ['\n'] := by
    rw [List.take_append]
    simp
  have hstrip : rstrip (b ++ ['\n'] ++ ['\n']) = rstrip b := by
    rw [rstrip_append_space _ (by decide), rstrip_append_space _ (by decide)]
  unfold interfaceBlock
  rw [find_marker_render hu]
  cases hp : find peerHeader (b ++ '\n' :: '\n' :: (managedMarker ++ rest)) with
  | none => simp only [htake, hstrip]
  | some j =>
    have := le_find_peer_render hu hp
    simp only [Nat.min_eq_left this, htake, hstrip]

/-- The block kept from a file: no carriage return, nothing to cut at, no trailing whitespace. -/
theorem readInterfaceBlock_spec (raw : Text) : ∃ b, '\r' ∉ b ∧ Unmarked b ∧ rstrip b = b ∧
    rstrip (readInterfaceBlock raw) = b ∧ readInterfaceBlock raw = b ++ ['\n'] := by
  obtain ⟨b, hpre, hu, hr, hb⟩ := rstrip_interfaceBlock (normalize raw)
  refine ⟨b, fun h => not_mem_normalize raw (hpre.subset h), hu, ?_, hr, hb⟩
  rw [← hr, rstrip_rstrip]

/-- **A sync reads back the block it was given**, whatever the peers. -/
theorem readInterfaceBlock_render (raw : Text) (peers : List PeerRow) :
    readInterfaceBlock (renderConfig (readInterfaceBlock raw) peers) = readInterfaceBlock raw := by
  obtain ⟨b, hcr, hu, hself, hr, hb⟩ := readInterfaceBlock_spec raw
  have hfile : renderConfig (readInterfaceBlock raw) peers =
      (b ++ '\n' :: '\n' :: managedMarker) ++ '\n' :: peers.flatMap fun p => '\n' :: p.toStanza := by
    rw [renderConfig_eq, hr, managedText]
    simp
  have hmark : '\r' ∉ b ++ '\n' :: '\n' :: managedMarker := by
    have : '\r' ∉ managedMarker := by decide
    simp [hcr, this]
  rw [hfile, readInterfaceBlock, normalize_append _ hmark, List.append_assoc, List.cons_append,
    List.cons_append, interfaceBlock_marked hu, hself, hb]

/-- **The managed part of a rendered file** is the text the renderer put there. -/
theorem managedPart_render (raw : Text) (peers : List PeerRow) :
    managedPart (renderConfig (readInterfaceBlock raw) peers) = some (managedText peers) := by
  obtain ⟨b, -, hu, -, hr, -⟩ := readInterfaceBlock_spec raw
  have hdrop : (b ++ '\n' :: '\n' :: managedText peers).drop (b.length + 2) =
      managedText peers := by
    rw [List.drop_append]
    simp
  have hfind : find managedMarker (b ++ '\n' :: '\n' :: managedText peers) =
      some (b.length + 2) := by
    rw [managedText, find_marker_render hu]
  rw [renderConfig_eq, hr, managedPart, hfind, Option.map_some, hdrop]

end CpeCloud

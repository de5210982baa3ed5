import CpeCloud.Wireguard.Conf
import Mathlib.Algebra.Order.Ring.Nat
import Mathlib.Tactic.Common

/-!
# `wg0.conf` as `wg` reads it

`wg` drops comments and blanks from each line, starts a peer at `[Peer]` and takes any other line
as `Key = Value`. `readPeers` is the list of peer sections of a text that holds nothing else.

* **`readPeers_managedText_iff`**: the managed text reads back as exactly the stanzas it was made
  of iff every line of an identity behind its first is blank or a comment. The first line sits in
  the stanza's own comment; the others do not.
-/

namespace CpeCloud

open Text

/-- `isspace` in the C locale. -/
def isWgSpace (c : Char) : Bool := c == ' ' || (9 ≤ c.toNat && c.toNat ≤ 13)

/-- A line without its comment and without blanks. -/
def wgClean (line : Text) : Text := (line.takeWhile (· != '#')).filter fun c => !isWgSpace c

/-- What a line that is not blank says. -/
inductive WgItem where
  | peer
  | entry (key value : Text)
  | other (line : Text)
  deriving DecidableEq

/-- One line, as `wg` reads it. -/
def readLine (line : Text) : Option WgItem :=
  let l := wgClean line
  if l = [] then none
  else if l = peerHeader then some .peer
  else if '=' ∈ l then
    some (.entry (l.takeWhile (· != '=')) ((l.dropWhile (· != '=')).drop 1))
  else some (.other l)

/-- The lines of a text that say something. -/
def readItems (text : Text) : List WgItem := (lines text).filterMap readLine

/-- The entries in front of the first peer header, and the sections behind it; `none` if a line is
neither a peer header nor an entry. -/
def sections : List WgItem → Option (List (Text × Text) × List (List (Text × Text)))
  | [] => some ([], [])
  | .peer :: items => (sections items).map fun s => ([], s.1 :: s.2)
  | .entry k v :: items => (sections items).map fun s => ((k, v) :: s.1, s.2)
  | .other _ :: _ => none

/-- The peer sections of a text that consists of peer sections. -/
def readPeers (text : Text) : Option (List (List (Text × Text))) :=
  match sections (readItems text) with
  | some ([], ss) => some ss
  | _ => none

/-- The keys a peer's section should have. -/
def PeerRow.entries (p : PeerRow) : List (Text × Text) :=
  [("PublicKey".toList, p.publicKey), ("AllowedIPs".toList, p.overlayIp ++ "/32".toList),
    ("PersistentKeepalive".toList, "25".toList)]

/-- The items of a section. -/
def sectionItems (entries : List (Text × Text)) : List WgItem :=
  .peer :: entries.map fun e => .entry e.1 e.2

/-! ## Lines -/

theorem readItems_append (a b : Text) :
    readItems (a ++ '\n' :: b) = readItems a ++ readItems b := by
  rw [readItems, lines_append, List.filterMap_append]
  rfl

theorem readItems_line {l : Text} (h : '\n' ∉ l) : readItems l = (readLine l).toList := by
  rw [readItems, lines_eq_singleton h]
  cases hr : readLine l <;> simp [hr]

/-- No comment sign, no blank. -/
def Plain (t : Text) : Prop := ∀ c ∈ t, c ≠ '#' ∧ isWgSpace c = false

theorem Plain.no_newline {t : Text} (h : Plain t) : '\n' ∉ t := fun hm => by
  have := (h '\n' hm).2
  simp [isWgSpace] at this

theorem wgClean_plain {t : Text} (h : Plain t) : wgClean t = t := by
  have h1 : t.takeWhile (· != '#') = t :=
    List.takeWhile_eq_self_iff.mpr fun c hc => by simpa using (h c hc).1
  rw [wgClean, h1, List.filter_eq_self]
  intro c hc
  simp [(h c hc).2]

theorem wgClean_append {a t : Text} (ha : '#' ∉ a) : wgClean (a ++ t) = wgClean a ++ wgClean t := by
  have hpos : ∀ c ∈ a, (c != '#') = true := fun c hc => by
    simpa using fun he : c = '#' => ha (he ▸ hc)
  have h1 : (a ++ t).takeWhile (· != '#') = a ++ t.takeWhile (· != '#') :=
    List.takeWhile_append_of_pos hpos
  have h2 : a.takeWhile (· != '#') = a := List.takeWhile_eq_self_iff.mpr hpos
  rw [wgClean, h1, wgClean, h2, wgClean, List.filter_append]

/-- A `Key = Value` line with a plain key and a plain value. -/
theorem readLine_entry {k v : Text} (hk : Plain k) (hke : '=' ∉ k) (hv : Plain v) :
    readLine (k ++ " = ".toList ++ v) = some (.entry k v) := by
  have hclean : wgClean (k ++ " = ".toList ++ v) = k ++ '=' :: v := by
    have hk' : '#' ∉ k := fun hm => (hk '#' hm).1 rfl
    rw [List.append_assoc, wgClean_append hk', wgClean_append (by decide), wgClean_plain hk,
      wgClean_plain hv]
    rfl
  have hpos : ∀ c ∈ k, (c != '=') = true := fun c hc => by
    simpa using fun he : c = '=' => hke (he ▸ hc)
  have hne : k ++ '=' :: v ≠ peerHeader := fun he => by
    have : '=' ∈ peerHeader := he ▸ by simp
    exact absurd this (by decide)
  unfold readLine
  simp only [hclean]
  rw [if_neg (by simp), if_neg hne, if_pos (by simp), List.takeWhile_append_of_pos hpos,
    List.dropWhile_append_of_pos hpos]
  simp

/-! ## Stanzas -/

/-- Every line behind the first is blank or a comment. -/
def Inert (identity : Text) : Prop := ∀ l ∈ (lines identity).tail, wgClean l = []

instance (identity : Text) : Decidable (Inert identity) := by
  unfold Inert
  infer_instance

theorem readLine_eq_none_iff {l : Text} : readLine l = none ↔ wgClean l = [] := by
  unfold readLine
  simp only
  split
  · simp [*]
  · rename_i h
    split
    · simp [h]
    · split <;> simp [h]

/-- The comment in front of a stanza: its first line says nothing, the identity's other lines are
read as they stand. -/
theorem readItems_comment (identity : Text) :
    readItems ("# ".toList ++ identity) = (lines identity).tail.filterMap readLine := by
  have hfirst : ∀ l : Text, readLine ('#' :: ' ' :: l) = none := fun l => by
    rw [readLine_eq_none_iff]
    simp [wgClean]
  have hlines : ∃ l ls, lines identity = l :: ls ∧
      lines ('#' :: ' ' :: identity) = ('#' :: ' ' :: l) :: ls := by
    cases h : lines identity with
    | nil => exact absurd h (lines_ne_nil identity)
    | cons l ls => exact ⟨l, ls, rfl, by simp [lines, h]⟩
  obtain ⟨l, ls, h, h'⟩ := hlines
  show readItems ('#' :: ' ' :: identity) = _
  rw [readItems, h', h, List.filterMap_cons, hfirst, List.tail_cons]

theorem inert_iff_comment (identity : Text) :
    Inert identity ↔ readItems ("# ".toList ++ identity) = [] := by
  rw [readItems_comment, List.filterMap_eq_nil_iff]
  exact forall₂_congr fun l _ => readLine_eq_none_iff.symm

/-- A key and an address that read back as they were written. -/
structure PeerRow.Printable (p : PeerRow) : Prop where
  publicKey : Plain p.publicKey
  overlayIp : Plain p.overlayIp

theorem readItems_toStanza {p : PeerRow} (h : p.Printable) :
    readItems p.toStanza = readItems ("# ".toList ++ p.identity) ++ sectionItems p.entries := by
  have hshape : p.toStanza = ("# ".toList ++ p.identity) ++ '\n' :: (peerHeader ++ '\n' ::
      (("PublicKey".toList ++ " = ".toList ++ p.publicKey) ++ '\n' ::
        (("AllowedIPs".toList ++ " = ".toList ++ (p.overlayIp ++ "/32".toList)) ++ '\n' ::
          (("PersistentKeepalive".toList ++ " = ".toList ++ "25".toList) ++ '\n' :: [])))) := by
    simp [PeerRow.toStanza, peerHeader]
  have hplain (t : Text) (h : t.all (fun c => c != '#' && !isWgSpace c) = true) : Plain t := by
    intro c hc
    simpa using List.all_eq_true.mp h c hc
  have hslash : Plain "/32".toList := hplain _ (by decide)
  have hip : Plain (p.overlayIp ++ "/32".toList) := fun c hc =>
    (List.mem_append.mp hc).elim (h.overlayIp c) (hslash c)
  have hpk : Plain "PublicKey".toList := hplain _ (by decide)
  have hai : Plain "AllowedIPs".toList := hplain _ (by decide)
  have hka : Plain "PersistentKeepalive".toList := hplain _ (by decide)
  have h25 : Plain "25".toList := hplain _ (by decide)
  have line {k v : Text} (hk : Plain k) (hke : '=' ∉ k) (hv : Plain v) :
      readItems (k ++ " = ".toList ++ v) = [.entry k v] := by
    rw [readItems_line, readLine_entry hk hke hv]
    · rfl
    · simp [hk.no_newline, hv.no_newline]
  rw [hshape, readItems_append, readItems_append, readItems_append, readItems_append,
    readItems_append, line hpk (by decide) h.publicKey, line hai (by decide) hip,
    line hka (by decide) h25]
  rfl

theorem readItems_managedText {peers : List PeerRow} (h : ∀ p ∈ peers, p.Printable) :
    readItems (managedText peers) = peers.flatMap fun p =>
      readItems ("# ".toList ++ p.identity) ++ sectionItems p.entries := by
  have hstanzas : ∀ ps : List PeerRow, (∀ p ∈ ps, p.Printable) →
      readItems (ps.flatMap fun p => '\n' :: p.toStanza) = ps.flatMap fun p =>
        readItems ("# ".toList ++ p.identity) ++ sectionItems p.entries := by
    intro ps
    induction ps with
    | nil => intro _; rfl
    | cons p ps ih =>
      intro h
      rw [List.flatMap_cons, List.flatMap_cons, ← ih fun q hq => h q (List.mem_cons_of_mem p hq),
        ← readItems_toStanza (h p List.mem_cons_self)]
      cases ps with
      | nil =>
        simp only [List.flatMap_nil, List.append_nil]
        rw [show '\n' :: p.toStanza = [] ++ '\n' :: p.toStanza from rfl, readItems_append]
        simp [readItems, lines, readLine, wgClean]
      | cons q qs =>
        have hsplit : ('\n' :: p.toStanza) ++ (q :: qs).flatMap (fun p => '\n' :: p.toStanza) =
            [] ++ '\n' :: (p.toStanza ++ '\n' :: (q.toStanza ++
              qs.flatMap fun p => '\n' :: p.toStanza)) := by
          simp
        have hrest : (q :: qs).flatMap (fun p => '\n' :: p.toStanza) =
            [] ++ '\n' :: (q.toStanza ++ qs.flatMap fun p => '\n' :: p.toStanza) := by
          simp
        rw [hsplit, hrest, readItems_append, readItems_append, readItems_append]
        simp [readItems, lines, readLine, wgClean]
  rw [managedText, readItems_append, hstanzas peers h]
  have : readItems managedMarker = [] := by decide
  rw [this, List.nil_append]

/-! ## Sections -/

theorem sections_append_section (entries : List (Text × Text)) (items : List WgItem) :
    sections (sectionItems entries ++ items) =
      (sections items).map fun s => ([], (entries ++ s.1) :: s.2) := by
  have hentries : ∀ es : List (Text × Text),
      sections (es.map (fun e => WgItem.entry e.1 e.2) ++ items) =
        (sections items).map fun s => (es ++ s.1, s.2) := by
    intro es
    induction es with
    | nil => simp
    | cons e es ih =>
      simp only [List.map_cons, List.cons_append, sections, ih, Option.map_map]
      rfl
  simp only [sectionItems, List.cons_append, sections, hentries, Option.map_map]
  rfl

theorem sections_stanzas (peers : List PeerRow) :
    sections (peers.flatMap fun p => sectionItems p.entries) =
      some ([], peers.map PeerRow.entries) := by
  induction peers with
  | nil => rfl
  | cons p ps ih => simp [List.flatMap_cons, sections_append_section, ih]

/-- Every item that is read stands in the result. -/
theorem sections_length : ∀ {items : List WgItem} {es : List (Text × Text)}
    {ss : List (List (Text × Text))}, sections items = some (es, ss) →
      items.length = es.length + (ss.map fun s => s.length + 1).sum
  | [], es, ss, h => by
    simp only [sections, Option.some.injEq, Prod.mk.injEq] at h
    obtain ⟨rfl, rfl⟩ := h
    rfl
  | .peer :: items, es, ss, h => by
    obtain ⟨⟨es', ss'⟩, hs, he⟩ := Option.map_eq_some_iff.mp h
    simp only [Prod.mk.injEq] at he
    obtain ⟨rfl, rfl⟩ := he
    have := sections_length hs
    simp only [List.length_cons, List.map_cons, List.sum_cons, List.length_nil]
    omega
  | .entry k v :: items, es, ss, h => by
    obtain ⟨⟨es', ss'⟩, hs, he⟩ := Option.map_eq_some_iff.mp h
    simp only [Prod.mk.injEq] at he
    obtain ⟨rfl, rfl⟩ := he
    have := sections_length hs
    simp only [List.length_cons]
    omega
  | .other l :: items, es, ss, h => by simp [sections] at h

/-- **The managed text reads back as its stanzas iff no identity spills a line that says
something.** -/
theorem readPeers_managedText_iff {peers : List PeerRow} (h : ∀ p ∈ peers, p.Printable) :
    readPeers (managedText peers) = some (peers.map PeerRow.entries) ↔
      ∀ p ∈ peers, Inert p.identity := by
  unfold readPeers
  rw [readItems_managedText h]
  constructor
  · intro hr
    have hs : sections (peers.flatMap fun p =>
        readItems ("# ".toList ++ p.identity) ++ sectionItems p.entries) =
          some ([], peers.map PeerRow.entries) := by
      split at hr
      · rename_i heq
        rw [heq, Option.some.inj hr]
      · simp at hr
    have hlen := sections_length hs
    have hsum : (peers.map fun p => (readItems ("# ".toList ++ p.identity)).length).sum = 0 := by
      have hcount : ∀ ps : List PeerRow, (ps.flatMap fun p =>
          readItems ("# ".toList ++ p.identity) ++ sectionItems p.entries).length =
            (ps.map fun p => (readItems ("# ".toList ++ p.identity)).length).sum +
              ((ps.map PeerRow.entries).map fun s => s.length + 1).sum := by
        intro ps
        induction ps with
        | nil => rfl
        | cons p ps ih =>
          rw [List.flatMap_cons, List.length_append, ih]
          simp only [List.length_append, List.map_cons, List.sum_cons, sectionItems,
            List.length_cons, List.length_map]
          omega
      rw [hcount] at hlen
      simpa using hlen
    intro p hp
    rw [inert_iff_comment, ← List.length_eq_zero_iff]
    exact List.sum_eq_zero_iff_forall_eq_nat.mp hsum _ (List.mem_map_of_mem hp)
  · intro hin
    have hflat : (peers.flatMap fun p =>
        readItems ("# ".toList ++ p.identity) ++ sectionItems p.entries) =
          peers.flatMap fun p => sectionItems p.entries :=
      List.flatMap_congr fun p hp => by
        rw [(inert_iff_comment _).mp (hin p hp), List.nil_append]
    rw [hflat, sections_stanzas]

end CpeCloud

import CpeCloud.AutoEnroll.Transaction

/-!
# What validation lets through

Three checks of the enrollment data, each with the language it cuts out: the public key, the name
that auto-approves, and the values that go into the columns of `routers`.

* **`acceptsKey_iff`**: the accepted keys are the canonical encodings of 32 bytes.
* **`approvesConvention_iff`**: auto-approval follows the naming convention, except under a name
  with a newline at its end.
* **`storesPayload_iff`**: when every value of an accepted payload lies in its column's domain.
-/

namespace CpeCloud

/-! ## Public keys -/

/-- The limits and the check on `router_public_key`. -/
def AcceptsKey (v : Text) : Prop := v.length = 44 ∧ validateWgPubkey v = .ok v

instance (v : Text) : Decidable (AcceptsKey v) :=
  inferInstanceAs (Decidable (v.length = 44 ∧ validateWgPubkey v = .ok v))

theorem validateWgPubkey_ok_iff {v : Text} :
    validateWgPubkey v = .ok v ↔ ∃ key : List UInt8, key.length = 32 ∧ Base64.encode key = v := by
  constructor
  · exact validateWgPubkey_ok
  · rintro ⟨key, hlen, rfl⟩
    simp [validateWgPubkey, Base64.decode_encode, hlen]

/-- A 32-byte key has 44 characters. -/
theorem length_of_encode {key : List UInt8} (h : key.length = 32) :
    (Base64.encode key).length = 44 := by
  obtain ⟨s, c, n, hs, hlen, -⟩ := Base64.encode_shape 10 h
  rw [hs]
  simp [hlen]

theorem acceptsKey_iff_encode {v : Text} :
    AcceptsKey v ↔ ∃ key : List UInt8, key.length = 32 ∧ Base64.encode key = v := by
  rw [AcceptsKey, validateWgPubkey_ok_iff]
  constructor
  · rintro ⟨-, h⟩
    exact h
  · rintro ⟨key, hlen, rfl⟩
    exact ⟨length_of_encode hlen, key, hlen, rfl⟩

/-- **The accepted keys**: 43 symbols, the last of which has two zero bits, and `=`; the encodings
of 32 bytes; and two of them are one exactly if they decode to the same bytes. -/
theorem acceptsKey_iff (v : Text) :
    (AcceptsKey v ↔ ∃ s c n, v = s ++ [c, '='] ∧ s.length = 42 ∧ (∀ d ∈ s, d ∈ Base64.alphabet) ∧
      Base64.value c = some n ∧ 4 ∣ n) ∧
    (AcceptsKey v ↔ ∃ key : List UInt8, key.length = 32 ∧ Base64.encode key = v) ∧
    ∀ w, AcceptsKey v → AcceptsKey w →
      (v = w ↔ ∃ key : List UInt8, key.length = 32 ∧ Base64.decode v = some key ∧
        Base64.decode w = some key) := by
  refine ⟨?_, acceptsKey_iff_encode, fun w hv hw => ?_⟩
  · rw [acceptsKey_iff_encode]
    exact Base64.exists_encode_iff 10
  · obtain ⟨key, hlen, rfl⟩ := acceptsKey_iff_encode.mp hv
    obtain ⟨key', -, rfl⟩ := acceptsKey_iff_encode.mp hw
    rw [Base64.decode_encode, Base64.decode_encode]
    constructor
    · intro h
      exact ⟨key, hlen, rfl, by rw [Base64.encode_injective h]⟩
    · rintro ⟨key'', -, h, h'⟩
      rw [Option.some.inj h, Option.some.inj h']

/-! ## Names -/

/-- `hAP <model> - <last name>, <first name>`, on one line. -/
def Conventional (identity : Text) : Prop :=
  ∃ a b c : Text, (a ≠ [] ∧ '\n' ∉ a) ∧ (b ≠ [] ∧ '\n' ∉ b) ∧ (c ≠ [] ∧ '\n' ∉ c) ∧
    identity = "hAP ".toList ++ a ++ " - ".toList ++ b ++ ", ".toList ++ c

/-- The name decides the status as the convention has it. -/
def ApprovesConvention (identity : Text) : Prop :=
  (initialStatusFor identity = .active ↔ Conventional identity) ∧
    (initialStatusFor identity = .pending ↔ ¬ Conventional identity)

/-- The identity that `shelf-flash.rsc.j2` sets, where there is a model and a serial number. -/
def shelfIdentity (identity shelfModel shelfSerial : Text) : Text :=
  if 0 < shelfModel.length ∧ 0 < shelfSerial.length then
    "hAP ".toList ++ shelfModel ++ " - Shelf, ".toList ++ shelfSerial
  else identity

theorem Conventional.not_mem {identity : Text} (h : Conventional identity) : '\n' ∉ identity := by
  obtain ⟨a, b, c, ⟨-, ha⟩, ⟨-, hb⟩, ⟨-, hc⟩, rfl⟩ := h
  simp [ha, hb, hc]

/-- `.+` matches the texts of one line. -/
theorem forall_dot_iff {w : Text} : (∀ c ∈ w, Regex.dot c = true) ↔ '\n' ∉ w := by
  constructor
  · intro h hm
    exact absurd (h _ hm) (by decide)
  · intro h c hc
    simp only [Regex.dot, bne_iff_ne, ne_eq]
    rintro rfl
    exact h hc

/-- The ways in which the pattern matches: a conventional name, in front of what it leaves. -/
theorem mem_identityAutoApprove {s t : Text} : t ∈ Regex.rests identityAutoApprove s ↔
    (t = [] ∨ t = ['\n']) ∧ ∃ name, Conventional name ∧ s = name ++ t := by
  simp only [identityAutoApprove, Regex.mem_seq, Regex.mem_lit, Regex.mem_plus, Regex.mem_eos,
    forall_dot_iff]
  constructor
  · rintro ⟨_, rfl, _, ⟨a, ha, han, rfl⟩, _, rfl, _, ⟨b, hb, hbn, rfl⟩, _, rfl, _,
      ⟨c, hc, hcn, rfl⟩, rfl, ht⟩
    exact ⟨ht, _, ⟨a, b, c, ⟨ha, han⟩, ⟨hb, hbn⟩, ⟨hc, hcn⟩, rfl⟩, by simp⟩
  · rintro ⟨ht, _, ⟨a, b, c, ⟨ha, han⟩, ⟨hb, hbn⟩, ⟨hc, hcn⟩, rfl⟩, rfl⟩
    simp only [List.append_assoc]
    exact ⟨_, rfl, _, ⟨a, ha, han, rfl⟩, _, rfl, _, ⟨b, hb, hbn, rfl⟩, _, rfl, _,
      ⟨c, hc, hcn, rfl⟩, rfl, ht⟩

/-- **What auto-approves**: a conventional name, with or without a newline at its end. -/
theorem active_iff {identity : Text} : initialStatusFor identity = .active ↔
    Conventional identity ∨ ∃ name, Conventional name ∧ identity = name ++ ['\n'] := by
  have hmatch : initialStatusFor identity = .active ↔
      identityAutoApprove.isMatch identity = true := by
    unfold initialStatusFor
    split <;> simp [*]
  rw [hmatch, Regex.isMatch_iff]
  simp only [mem_identityAutoApprove]
  constructor
  · rintro ⟨_, rfl | rfl, name, hname, rfl⟩
    · exact Or.inl (by simpa using hname)
    · exact Or.inr ⟨name, hname, rfl⟩
  · rintro (hname | ⟨name, hname, rfl⟩)
    · exact ⟨[], Or.inl rfl, identity, hname, by simp⟩
    · exact ⟨['\n'], Or.inr rfl, name, hname, rfl⟩

/-- A name is pending unless it is approved. -/
theorem pending_iff {identity : Text} :
    initialStatusFor identity = .pending ↔ ¬ initialStatusFor identity = .active := by
  unfold initialStatusFor
  split <;> simp

/-- The names of the shelf follow the convention. -/
theorem conventional_shelf {model serial : Text} (hmodel : model ≠ [] ∧ '\n' ∉ model)
    (hserial : serial ≠ [] ∧ '\n' ∉ serial) (identity : Text) :
    Conventional (shelfIdentity identity model serial) := by
  rw [shelfIdentity, if_pos ⟨List.length_pos_iff.mpr hmodel.1, List.length_pos_iff.mpr hserial.1⟩]
  exact ⟨model, "Shelf".toList, serial, hmodel, by decide, hserial, by simp⟩

/-- **Auto-approval follows the naming convention**, except under a name with a newline at its
end; and every name of the shelf auto-approves. -/
theorem approvesConvention_iff (identity : Text) :
    (ApprovesConvention identity ↔
      ¬ ∃ name, Conventional name ∧ identity = name ++ ['\n']) ∧
    ∀ model serial : Text, model ≠ [] → '\n' ∉ model → serial ≠ [] → '\n' ∉ serial →
      initialStatusFor (shelfIdentity identity model serial) = .active := by
  refine ⟨?_, fun model serial hm hmn hs hsn =>
    active_iff.mpr (Or.inl (conventional_shelf ⟨hm, hmn⟩ ⟨hs, hsn⟩ identity))⟩
  rw [ApprovesConvention, pending_iff, active_iff]
  constructor
  · rintro ⟨h, -⟩ ⟨name, hname, rfl⟩
    exact (h.mp (Or.inr ⟨name, hname, rfl⟩)).not_mem (by simp)
  · intro h
    simp [h]

/-- A name in two lines, the second of them empty, is approved. -/
theorem trailingNewline_not_conventional : ¬ ∀ identity, ApprovesConvention identity := by
  intro h
  have hname := (h "hAP ac2 - Lab, Bench\n".toList).1.mp (by decide)
  exact hname.not_mem (by decide)

/-! ## Values -/

/-- Every value the endpoint writes into a row lies in the domain of its column. -/
structure Router.InDomain (B : Backend) (r : Router) : Prop where
  identity : storable r.identity
  serialNumber : storable r.serialNumber
  macAddress : ∃ m, B.macaddr r.macAddress = some m
  model : ∀ t ∈ r.model, storable t
  rosVersion : ∀ t ∈ r.rosVersion, storable t
  rosMajor : ∀ n ∈ r.rosMajor, fitsSmallInt n
  wgPublicKey : ∀ t ∈ r.wgPublicKey, storable t

/-- The payload can be stored, in a new row and in one that there is. -/
structure StoresPayload (D : Deployment) (p : AutoEnrollRequest) : Prop where
  insert : ∀ ip now id, (newRouter p ip now id).InDomain D.toBackend
  update : ∀ (loaded : Router) now, loaded.InDomain D.toBackend →
    (loaded.assign p now).InDomain D.toBackend
  noDataError : ∀ c db, c.payload = p → (enrollRow D c db).1 ≠ .error .dataError

/-- Validation keeps NUL characters out of the key. -/
theorem storable_key (p : AutoEnrollRequest) : storable p.routerPublicKey := by
  intro h
  rcases p.mem_key h with h | h
  · exact absurd h (by decide)
  · exact absurd h (by decide)

theorem inDomain_newRouter {B : Backend} {p : AutoEnrollRequest} (h : p.fits B)
    (ip : IPv4.Address) (now : Timestamp) (id : Nat) : (newRouter p ip now id).InDomain B := by
  obtain ⟨hmac, hmajor, hserial, hidentity, hmodel, hversion⟩ := h
  exact ⟨hidentity, hserial, Option.isSome_iff_exists.mp hmac, by simpa [newRouter] using hmodel,
    by simpa [newRouter] using hversion, hmajor, by simpa [newRouter] using storable_key p⟩

theorem inDomain_assign {B : Backend} {p : AutoEnrollRequest} (h : p.fits B) {loaded : Router}
    (hloaded : loaded.InDomain B) (now : Timestamp) : (loaded.assign p now).InDomain B := by
  obtain ⟨hmac, hmajor, -, hidentity, hmodel, hversion⟩ := h
  exact ⟨hidentity, hloaded.serialNumber, Option.isSome_iff_exists.mp hmac,
    by simpa [Router.assign] using hmodel, by simpa [Router.assign] using hversion, hmajor,
    by simpa [Router.assign] using storable_key p⟩

/-- The transaction raises no `DataError` over values that fit. -/
theorem enrollRow_ne_dataError {D : Deployment} {c : Submission}
    (h : c.payload.fits D.toBackend) (db : Db) : (enrollRow D c db).1 ≠ .error .dataError := by
  unfold enrollRow
  rw [if_neg (not_not.mpr h.2.2.1)]
  split
  · unfold enrollNew
    split
    · rename_i e he
      unfold allocateOverlayIp at he
      split at he
      · cases he
      · obtain rfl := Except.error.inj he
        simp
    · simp only [if_neg (not_not.mpr h)]
      split <;> simp
  · unfold enrollExisting
    rw [if_neg (not_not.mpr h)]
    split <;> simp

/-- **What is stored**: a payload whose MAC address is one, whose texts have no NUL character, and
whose version does not begin with an integer beyond `SMALLINT`. -/
theorem storesPayload_iff (D : Deployment) (p : AutoEnrollRequest) :
    StoresPayload D p ↔ (∃ m, D.macaddr p.mac = some m) ∧
      (∀ t ∈ [p.serial, p.identity, p.model, p.rosVersion], storable t) ∧
      ∀ n, Numeral.Literal (p.rosVersion.takeWhile (· != '.')) n → -32768 ≤ n ∧ n ≤ 32767 := by
  have hfits : p.fits D.toBackend ↔ (∃ m, D.macaddr p.mac = some m) ∧
      (∀ t ∈ [p.serial, p.identity, p.model, p.rosVersion], storable t) ∧
      ∀ n, Numeral.Literal (p.rosVersion.takeWhile (· != '.')) n → -32768 ≤ n ∧ n ≤ 32767 := by
    simp only [AutoEnrollRequest.fits, Option.isSome_iff_exists, parseRosMajor, Option.mem_def,
      Numeral.parseInt_eq_some_iff, fitsSmallInt, List.forall_mem_cons, List.not_mem_nil,
      false_imp_iff, implies_true, and_true]
    tauto
  rw [← hfits]
  constructor
  · intro h
    have hrow := h.insert (Fin.ofNat _ 0) 0 0
    exact ⟨Option.isSome_iff_exists.mpr hrow.macAddress, hrow.rosMajor, hrow.serialNumber,
      hrow.identity, hrow.model p.model rfl, hrow.rosVersion p.rosVersion rfl⟩
  · intro h
    exact ⟨inDomain_newRouter h, fun loaded now hloaded => inDomain_assign h hloaded now,
      fun c db hc => enrollRow_ne_dataError (hc ▸ h) db⟩

/-- Unit A, with a version of its own. -/
def unitAFuture : AutoEnrollRequest :=
  { unitA with
    rosVersion := "99999.1".toList
    rosVersion_len := by decide }

theorem future_not_stored : ¬ ∀ (D : Deployment) (p : AutoEnrollRequest), StoresPayload D p := by
  intro h
  have hmajor := ((h smallDeployment unitAFuture).insert (Fin.ofNat _ 0) 0 0).rosMajor 99999
    (by decide)
  exact absurd hmajor (by decide)

end CpeCloud

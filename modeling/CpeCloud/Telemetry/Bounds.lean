import CpeCloud.Telemetry.Records

/-!
# Integer fields (`app/services/influx.py`)

An integer field of Influx has 64 bits, and a record with another integer fails the whole write.
The models of `app/routers/telemetry.py` bound `cpu_load_pct` and `frequency`, and nothing else
from above.

* `FitsInt64`: the bounds a payload must keep beside its model's.
* **`records_fit_iff`**: the records of an accepted payload fit exactly where it keeps them.
-/

namespace CpeCloud

open PyVal (Dict Python get)
open Schema (validate)

/-- The greatest integer of an Influx field. -/
def maxInt64 : Int := 2 ^ 63 - 1

/-- Every integer field of every record is one of 64 bits. -/
def IntegersFit (records : List Point) : Prop :=
  ∀ p ∈ records, ∀ name n, (name, PyVal.int n) ∈ p.fields → -2 ^ 63 ≤ n ∧ n ≤ maxInt64

/-- The uptime of a payload: that of its `system` block, or else its own. -/
inductive UptimeText (dump : Dict) : Text → Prop
  | nested {system : Dict} {t : Text} (hs : systemOf dump = some system)
      (h : get system "uptime".toList = .str t) : UptimeText dump t
  | flat {t : Text} (hno : ∀ system ∈ systemOf dump, get system "uptime".toList = .null)
      (h : get dump "uptime".toList = .str t) : UptimeText dump t

/-- The numbers of a payload that no model bounds from above. -/
structure FitsInt64 (dump : Dict) : Prop where
  uptime : ∀ t n, UptimeText dump t → UptimeReads t n → (n : Int) ≤ maxInt64
  memory : ∀ system ∈ systemOf dump, ∀ name ∈ ["free_memory_bytes", "total_memory_bytes"],
    ∀ n, get system name.toList = .int n → n ≤ maxInt64
  counters : ∀ m ∈ entriesOf dump, ∀ name ∈ counterNames,
    ∀ n, get m.2 name.toList = .int n → n ≤ maxInt64

/-! ## The uptime -/

theorem UptimeText.unique {dump : Dict} {t t' : Text} (h : UptimeText dump t)
    (h' : UptimeText dump t') : t = t' := by
  cases h with
  | nested hs h =>
    cases h' with
    | nested hs' h' =>
      obtain rfl := Option.some.inj (hs.symm.trans hs')
      exact PyVal.str.inj (h.symm.trans h')
    | flat hno =>
      rw [hno _ hs] at h
      cases h
  | flat hno h =>
    cases h' with
    | nested hs' h' =>
      rw [hno _ hs'] at h'
      cases h'
    | flat _ h' => exact PyVal.str.inj (h.symm.trans h')

/-- The payload's own uptime, where no `system` block has one. -/
theorem flatUptime_cases {P : Pydantic} {d dump : Dict} (hc : HeartbeatChecked P d dump)
    (py : Python) (hno : ∀ system ∈ systemOf dump, get system "uptime".toList = .null) {t : Text}
    (htext : t =
      if (get dump "uptime".toList).truthy then py.str (get dump "uptime".toList) else []) :
    UptimeText dump t ∨ (∀ t, ¬ UptimeText dump t) ∧ t = [] := by
  rcases hc.uptime with hnull | ⟨own, hown, -, hget⟩
  · refine Or.inr ⟨fun t h => ?_, by rw [htext, hnull]; rfl⟩
    cases h with
    | nested hs h =>
      rw [hno _ hs] at h
      cases h
    | flat _ h =>
      rw [hnull] at h
      cases h
  · rw [textOr_validated py hown hget] at htext
    rw [htext]
    exact Or.inl (.flat hno hget)

/-- The text the writer parses is the payload's uptime, or empty where there is none. -/
theorem extractUptimeString_cases {P : Pydantic} {d dump : Dict} (hc : HeartbeatChecked P d dump)
    (py : Python) : UptimeText dump (extractUptimeString py dump) ∨
      ((∀ t, ¬ UptimeText dump t) ∧ extractUptimeString py dump = []) := by
  have htext := extractUptimeString_eq py dump
  cases hs : systemOf dump with
  | none =>
    rw [hs] at htext
    exact flatUptime_cases hc py (by simp [hs]) htext
  | some system =>
    rw [hs] at htext
    rcases (hc.system system hs).uptime with hnull | ⟨t, ht, -, hget⟩
    · have hno : ∀ system ∈ systemOf dump, get system "uptime".toList = .null := by
        rw [hs]
        rintro _ ⟨⟩
        exact hnull
      refine flatUptime_cases hc py hno (htext.trans ?_)
      simp only [hnull]
      rfl
    · rw [htext]
      simp only [textOr_validated py ht hget]
      exact Or.inl (.nested hs hget)

theorem uptimeSeconds_le_iff {P : Pydantic} {d dump : Dict} (hc : HeartbeatChecked P d dump)
    (py : Python) : (uptimeSeconds (extractUptimeString py dump) : Int) ≤ maxInt64 ↔
      ∀ t n, UptimeText dump t → UptimeReads t n → (n : Int) ≤ maxInt64 := by
  rcases extractUptimeString_cases hc py with htext | ⟨hno, hempty⟩
  · constructor
    · intro hle t n ht hn
      obtain rfl := ht.unique htext
      rwa [uptimeSeconds_of_reads hn] at hle
    · intro h
      by_cases hreads : ∃ n, UptimeReads (extractUptimeString py dump) n
      · obtain ⟨n, hn⟩ := hreads
        rw [uptimeSeconds_of_reads hn]
        exact h _ n htext hn
      · rw [uptimeSeconds_of_not (not_exists.mp hreads)]
        decide
  · rw [hempty]
    exact ⟨fun _ t n ht => absurd ht (hno t), fun _ => by decide⟩

/-! ## The records -/

theorem integersFit_cons {p : Point} {ps : List Point} : IntegersFit (p :: ps) ↔
    (∀ name n, (name, PyVal.int n) ∈ p.fields → -2 ^ 63 ≤ n ∧ n ≤ maxInt64) ∧ IntegersFit ps :=
  List.forall_mem_cons

/-- The `system` point fits where the uptime and the sizes of memory do. -/
theorem systemRecord_fits_iff (router : Router) (ts : Timestamp) (uptimeSec : Nat)
    {system : Option Dict} (hc : ∀ d ∈ system, SystemChecked d) :
    (∀ name n, (name, PyVal.int n) ∈ (systemRecord router ts uptimeSec system).fields →
        -2 ^ 63 ≤ n ∧ n ≤ maxInt64) ↔
      (uptimeSec : Int) ≤ maxInt64 ∧ ∀ d ∈ system,
        ∀ name ∈ ["free_memory_bytes", "total_memory_bytes"],
          ∀ n, get d name.toList = .int n → n ≤ maxInt64 := by
  constructor
  · intro h
    refine ⟨(h "uptime_sec" uptimeSec List.mem_cons_self).2, fun d hd name hname n hn => ?_⟩
    obtain rfl : system = some d := hd
    refine (h name n (List.mem_cons_of_mem _ (mem_filterMap_nonNull.mpr ⟨?_, hn, by simp⟩))).2
    exact List.mem_append_left _ (List.mem_cons_of_mem _ hname)
  · rintro ⟨huptime, hmemory⟩ name n hm
    rcases List.mem_cons.mp hm with hm | hm
    · obtain rfl := PyVal.int.inj (Prod.mk.inj hm).2
      exact ⟨by omega, huptime⟩
    · obtain ⟨hname, hn, -⟩ := mem_filterMap_nonNull.mp hm
      cases system with
      | none => cases hn
      | some d =>
        have hd := hc d rfl
        rw [Option.getD_some] at hn
        rcases List.mem_append.mp hname with hint | hfloat
        · obtain ⟨k, hk, hget⟩ := (hd.int name hint).resolve_left (by rw [hn]; simp)
          obtain rfl := PyVal.int.inj (hn.symm.trans hget)
          refine ⟨by omega, ?_⟩
          rcases List.mem_cons.mp hint with rfl | hmem
          · obtain ⟨k', hk', hget'⟩ := hd.cpu.resolve_left (by rw [hn]; simp)
            obtain rfl := PyVal.int.inj (hn.symm.trans hget')
            unfold maxInt64
            omega
          · exact hmemory d rfl name hmem n hn
        · rcases hd.float name hfloat with hget | ⟨q, hget⟩
          · rw [hn] at hget
            cases hget
          · rw [hn] at hget
            cases hget

/-- The points of the entries fit where the counters do. -/
theorem Emits.fits_iff {router : Router} {ts : Timestamp} {es : List (Kind × Dict)}
    {ps : List Point} (h : Emits router ts es ps) (hc : ∀ m ∈ es, Checked m.1 m.2) :
    IntegersFit ps ↔ ∀ m ∈ es, ∀ name ∈ counterNames,
      ∀ n, get m.2 name.toList = .int n → n ≤ maxInt64 := by
  induction h with
  | nil => exact ⟨fun _ => List.forall_mem_nil _, fun _ => List.forall_mem_nil _⟩
  | @skip kind entry es ps hno rest ih =>
    have hnone : ∀ name ∈ counterNames, ∀ n, get entry name.toList = .int n → n ≤ maxInt64 :=
      fun name hname n hn => absurd (.counter hname hn) (hno name (.int n))
    rw [ih fun m hm => hc m (List.mem_cons_of_mem _ hm), List.forall_mem_cons]
    exact (and_iff_right hnone).symm
  | @emit kind entry es p ps hp hfields rest ih =>
    have hentry := hc _ List.mem_cons_self
    rw [integersFit_cons, ih fun m hm => hc m (List.mem_cons_of_mem _ hm), List.forall_mem_cons]
    refine and_congr_left fun _ => ⟨fun h name hname n hn => ?_, fun h name n hm => ?_⟩
    · exact (h name n ((hp.fields name _).mpr (.counter hname hn))).2
    · cases (hp.fields name _).mp hm with
      | counter hname hn =>
        obtain ⟨k, hk, hget⟩ := (hentry.counter name hname).resolve_left (by simp [hn])
        obtain rfl := PyVal.int.inj (hn.symm.trans hget)
        exact ⟨by omega, h name hname n hn⟩
      | frequency hkind hn =>
        obtain ⟨k, hk, hget⟩ := (hentry.int "frequency" (by simp [hkind, Kind.intNames])).resolve_left
          (by rw [hn]; simp)
        obtain rfl := PyVal.int.inj (hn.symm.trans hget)
        exact ⟨by omega, by unfold maxInt64; omega⟩

/-- **Where every integer of a heartbeat fits.** -/
theorem records_fit_iff (P : Pydantic) (py : Python) {doc : PyVal} {dump : Dict}
    (h : validate (.model (telemetryHeartbeat P)) doc = some (.dict dump)) (router : Router)
    (ts : Timestamp) :
    (∃ records, buildRecords py router dump ts = .ok records ∧ IntegersFit records) ↔
      FitsInt64 dump := by
  obtain ⟨d, rfl, hc⟩ := heartbeatChecked_of_validate h
  have hemits := @emits_filterMap router ts (entriesOf dump) hc.checked
  have hsystem := systemRecord_fits_iff router ts (uptimeSeconds (extractUptimeString py dump))
    hc.system
  rw [hc.buildRecords py router ts]
  simp only [Except.ok.injEq, exists_eq_left', integersFit_cons, hsystem,
    hemits.fits_iff hc.checked, uptimeSeconds_le_iff hc py]
  exact ⟨fun ⟨⟨huptime, hmemory⟩, hcounters⟩ => ⟨huptime, hmemory, hcounters⟩,
    fun h => ⟨⟨h.uptime, h.memory⟩, h.counters⟩⟩

theorem records_fit_small : ∃ dump,
    validate (.model (telemetryHeartbeat smallPydantic)) (smallDoc []) = some (.dict dump) ∧
    ∀ router ts, (∃ records, buildRecords smallPython router dump ts = .ok records ∧
      IntegersFit records) ↔ FitsInt64 dump :=
  ⟨_, rfl, @records_fit_iff smallPydantic smallPython (smallDoc []) _ rfl⟩

/-- A heartbeat with an uptime of 21 characters. -/
def longUptimeDoc : PyVal :=
  .dict [("identity".toList, .str "hAP ac2 - Lab, Bench".toList),
    ("wifi_stack".toList, .str "wireless".toList),
    ("uptime".toList, .str "99999999999999999999w".toList)]

theorem longUptime_unfit : ∃ dump,
    validate (.model (telemetryHeartbeat smallPydantic)) longUptimeDoc = some (.dict dump) ∧
    ∀ router ts, ¬ ∃ records, buildRecords smallPython router dump ts = .ok records ∧
      IntegersFit records := by
  refine ⟨_, rfl, ?_⟩
  rintro router ts ⟨records, hrecords, hfit⟩
  have hseconds : uptimeSeconds "99999999999999999999w".toList = 60479999999999999999395200 := by
    decide
  obtain rfl := Except.ok.inj hrecords
  have hle : (uptimeSeconds "99999999999999999999w".toList : Int) ≤ maxInt64 :=
    (hfit _ List.mem_cons_self "uptime_sec" _ List.mem_cons_self).2
  rw [hseconds] at hle
  exact absurd hle (by decide)

end CpeCloud

import Mathlib.Data.List.Forall2
import SoccerWorld.Snapshot.Tracking

/-!
# Which records of an observation are accepted

`PlayerObservation.IsAccepted` says by position which records of an observation count: the side is
assigned, the number is absent or a uniform number, and no record accepted before names the same
player.  `IsFaultOf` says which fault the other records have.  Neither mentions the list of used-up
identities that `sift` carries along.

Main statements:

* `map_record_sift`: `sift` keeps exactly the accepted records, in order;
* `isFaultOf_sift`: it reports exactly one fault for every other record, in order;
* `nodup_identities_sift`: the kept records name pairwise different players;
* `filter_identity_sift`: the record kept for an identity is the first one that names it.
-/

namespace SoccerWorld

variable {R : Type} [Scalar R]

namespace PlayerObservation

/-- The uniform number of a record, where it is one. -/
def number? (record : PlayerObservation R) : Option Unum :=
  record.unum.bind fun raw => Unum.ofNat? raw.toNat

/-- The player that a record names, where it names one. -/
def identity? (record : PlayerObservation R) : Option Identity :=
  record.number?.map fun unum => ⟨record.side, unum⟩

/-- The side is assigned, and the number is absent or a uniform number. -/
def IsWellFormed (record : PlayerObservation R) : Prop :=
  record.side.isAssigned = true ∧ ∀ raw, record.unum = some raw → 1 ≤ raw ∧ raw ≤ 11

/-- Two records give the same number and the same side. -/
def SameIdentity (earlier later : PlayerObservation R) : Prop :=
  ∃ raw, earlier.unum = some raw ∧ later.unum = some raw ∧ earlier.side = later.side

/-- The record at a position is accepted: it is well formed and no record accepted before it has
its identity. -/
def IsAccepted (records : List (PlayerObservation R)) (i : Nat) : Prop :=
  ∃ record, records[i]? = some record ∧ record.IsWellFormed ∧
    ∀ j, (hBefore : j < i) → IsAccepted records j →
      ∀ earlier, records[j]? = some earlier → ¬ earlier.SameIdentity record
termination_by i

/-- The fault of a record that is not accepted.  An unassigned side comes before a number out of
range, and only a well-formed record can be a duplicate. -/
inductive IsFaultOf (record : PlayerObservation R) : RecordFault → Prop
  | unassignedSide (hSide : record.side = Side.neutral) :
      IsFaultOf record (.unassignedSide record.unum)
  | unumOutOfRange (raw : UInt8) (hSide : record.side.isAssigned = true)
      (hUnum : record.unum = some raw) (hRange : ¬ (1 ≤ raw ∧ raw ≤ 11)) :
      IsFaultOf record (.unumOutOfRange record.side raw)
  | duplicateIdentity (raw : UInt8) (hUnum : record.unum = some raw)
      (hWellFormed : record.IsWellFormed) :
      IsFaultOf record (.duplicateIdentity record.side raw)

open Classical in
/-- The accepted records of an observation, in order. -/
noncomputable def acceptedRecords (records : List (PlayerObservation R)) :
    List (PlayerObservation R) :=
  (records.zipIdx.filter fun entry => IsAccepted records entry.2).map Prod.fst

open Classical in
/-- The other records of an observation, in order. -/
noncomputable def rejectedRecords (records : List (PlayerObservation R)) :
    List (PlayerObservation R) :=
  (records.zipIdx.filter fun entry => ¬ IsAccepted records entry.2).map Prod.fst

/-! ## One record -/

theorem ofNat?_toNat_eq_none_iff (raw : UInt8) :
    Unum.ofNat? raw.toNat = none ↔ ¬ (1 ≤ raw ∧ raw ≤ 11) := by
  rw [Unum.ofNat?_eq_none_iff, UInt8.le_iff_toNat_le, UInt8.le_iff_toNat_le]
  show raw.toNat < 1 ∨ 11 < raw.toNat ↔ ¬ (1 ≤ raw.toNat ∧ raw.toNat ≤ 11)
  omega

/-- Raw numbers that are the same uniform number are equal. -/
theorem raw_eq_of_ofNat? {raw raw' : UInt8} {unum : Unum}
    (hRaw : Unum.ofNat? raw.toNat = some unum) (hRaw' : Unum.ofNat? raw'.toNat = some unum) :
    raw = raw' := by
  rw [Unum.ofNat?_eq_some_iff] at hRaw hRaw'
  exact UInt8.toNat.inj (hRaw.symm.trans hRaw')

/-- A well-formed record names a player exactly if it has a number. -/
theorem IsWellFormed.number?_eq {record : PlayerObservation R} (hWellFormed : record.IsWellFormed)
    {raw : UInt8} (hUnum : record.unum = some raw) :
    ∃ unum, Unum.ofNat? raw.toNat = some unum ∧ record.number? = some unum := by
  cases hNumber : Unum.ofNat? raw.toNat with
  | none => exact absurd (hWellFormed.2 raw hUnum) ((ofNat?_toNat_eq_none_iff raw).mp hNumber)
  | some unum => exact ⟨unum, rfl, by rw [number?, hUnum, Option.bind_some, hNumber]⟩

/-- Well-formed records have the same identity exactly if they name the same player. -/
theorem sameIdentity_iff {earlier later : PlayerObservation R}
    (hEarlier : earlier.IsWellFormed) :
    earlier.SameIdentity later ↔
      ∃ identity, earlier.identity? = some identity ∧ later.identity? = some identity := by
  constructor
  · rintro ⟨raw, hUnum, hUnum', hSide⟩
    obtain ⟨unum, hNumber, hEarlierNumber⟩ := hEarlier.number?_eq hUnum
    refine ⟨⟨earlier.side, unum⟩, by rw [identity?, hEarlierNumber, Option.map_some], ?_⟩
    rw [identity?, number?, hUnum', Option.bind_some, hNumber, Option.map_some, hSide]
  · rintro ⟨identity, hIdentity, hIdentity'⟩
    simp only [identity?, number?, Option.map_eq_some_iff, Option.bind_eq_some_iff]
      at hIdentity hIdentity'
    obtain ⟨unum, ⟨raw, hUnum, hRaw⟩, rfl⟩ := hIdentity
    obtain ⟨unum', ⟨raw', hUnum', hRaw'⟩, hSame⟩ := hIdentity'
    obtain ⟨hSide, rfl⟩ := Identity.mk.inj hSame
    exact ⟨raw, hUnum, by rw [hUnum', raw_eq_of_ofNat? hRaw hRaw'], hSide.symm⟩

/-- The checks pass for a well-formed record whose player is not used up. -/
theorem check_eq_ok_iff (record : PlayerObservation R) (taken : List Identity)
    (unum : Option Unum) :
    record.check taken = .ok unum ↔
      record.IsWellFormed ∧ record.number? = unum ∧
        ∀ identity, record.identity? = some identity → identity ∉ taken := by
  unfold check
  cases hSide : record.side.isAssigned with
  | false => simp [IsWellFormed, hSide]
  | true =>
      cases hUnum : record.unum with
      | none => simp [IsWellFormed, number?, identity?, hSide, hUnum]
      | some raw =>
          have hRange := ofNat?_toNat_eq_none_iff raw
          cases hNumber : Unum.ofNat? raw.toNat with
          | none =>
              simp only [hNumber, true_iff] at hRange
              simp [IsWellFormed, hSide, hUnum, hNumber, hRange]
          | some number =>
              simp only [hNumber, reduceCtorEq, false_iff, not_not] at hRange
              by_cases hTaken : (⟨record.side, number⟩ : Identity) ∈ taken
              · simp [IsWellFormed, number?, identity?, hUnum, hNumber, hTaken]
              · simp [IsWellFormed, number?, identity?, hSide, hUnum, hNumber, hRange, hTaken]

/-- A record that fails the checks has the fault that they report. -/
theorem isFaultOf_of_check {record : PlayerObservation R} {taken : List Identity}
    {fault : RecordFault} (hCheck : record.check taken = .error fault) :
    record.IsFaultOf fault := by
  unfold check at hCheck
  cases hSide : record.side.isAssigned with
  | false =>
      simp only [hSide, Bool.not_false, if_true, Except.error.injEq] at hCheck
      subst hCheck
      refine IsFaultOf.unassignedSide ?_
      cases hNeutral : record.side <;> simp_all [Side.isAssigned]
  | true =>
      simp only [hSide, Bool.not_true, Bool.false_eq_true, if_false] at hCheck
      cases hUnum : record.unum with
      | none => simp [hUnum] at hCheck
      | some raw =>
          have hRange := ofNat?_toNat_eq_none_iff raw
          cases hNumber : Unum.ofNat? raw.toNat with
          | none =>
              simp only [hUnum, hNumber, Except.error.injEq] at hCheck
              subst hCheck
              exact IsFaultOf.unumOutOfRange raw hSide hUnum (hRange.mp hNumber)
          | some number =>
              simp only [hNumber, reduceCtorEq, false_iff, not_not] at hRange
              simp only [hUnum, hNumber] at hCheck
              split at hCheck
              · obtain rfl := Except.error.inj hCheck
                refine IsFaultOf.duplicateIdentity raw hUnum ⟨hSide, ?_⟩
                intro raw' hRaw'
                rw [hUnum] at hRaw'
                obtain rfl := Option.some.inj hRaw'
                exact hRange
              · contradiction

/-! ## A list of records -/

/-- An entry that passed the checks names the player that its record names. -/
theorem identity?_of_check {record : PlayerObservation R} {taken : List Identity}
    {unum : Option Unum} (hCheck : record.check taken = .ok unum) :
    (AcceptedRecord.mk unum record).identity? = record.identity? := by
  obtain ⟨-, hNumber, -⟩ := (check_eq_ok_iff record taken unum).mp hCheck
  rw [AcceptedRecord.identity?, identity?, hNumber]

theorem sift_cons_of_ok {record : PlayerObservation R} {taken : List Identity}
    {unum : Option Unum} (hCheck : record.check taken = .ok unum)
    (rest : List (PlayerObservation R)) :
    sift taken (record :: rest) =
      (⟨unum, record⟩ :: (sift (record.identity?.toList ++ taken) rest).1,
        (sift (record.identity?.toList ++ taken) rest).2) := by
  rw [sift, hCheck, ← identity?_of_check hCheck]

theorem sift_cons_of_error {record : PlayerObservation R} {taken : List Identity}
    {fault : RecordFault} (hCheck : record.check taken = .error fault)
    (rest : List (PlayerObservation R)) :
    sift taken (record :: rest) =
      ((sift taken rest).1, fault :: (sift taken rest).2) := by
  rw [sift, hCheck]

/-- What holds of every record that passes the checks holds of every kept entry. -/
theorem forall_mem_sift {P : AcceptedRecord R → Prop}
    (hOk : ∀ (record : PlayerObservation R) taken unum, record.check taken = .ok unum →
      P ⟨unum, record⟩)
    (taken : List Identity) (records : List (PlayerObservation R)) :
    ∀ entry ∈ (sift taken records).1, P entry := by
  induction records generalizing taken with
  | nil =>
      intro entry hEntry
      contradiction
  | cons record rest ih =>
      intro entry hEntry
      cases hCheck : record.check taken with
      | error fault =>
          rw [sift_cons_of_error hCheck] at hEntry
          exact ih taken entry hEntry
      | ok unum =>
          rw [sift_cons_of_ok hCheck] at hEntry
          rcases List.mem_cons.mp hEntry with rfl | hRest
          · exact hOk record taken unum hCheck
          · exact ih _ entry hRest

/-- Kept entries are on an assigned side. -/
theorem isAssigned_of_mem_sift (taken : List Identity) (records : List (PlayerObservation R)) :
    ∀ entry ∈ (sift taken records).1, entry.record.side.isAssigned = true :=
  forall_mem_sift (fun record taken unum hCheck =>
    ((check_eq_ok_iff record taken unum).mp hCheck).1.1) taken records

/-- Kept entries hold the number of their record. -/
theorem unum_of_mem_sift (taken : List Identity) (records : List (PlayerObservation R)) :
    ∀ entry ∈ (sift taken records).1, entry.unum = entry.record.number? :=
  forall_mem_sift (fun record taken unum hCheck =>
    ((check_eq_ok_iff record taken unum).mp hCheck).2.1.symm) taken records

theorem identity_of_mem_sift (taken : List Identity) (records : List (PlayerObservation R)) :
    ∀ entry ∈ (sift taken records).1, entry.identity? = entry.record.identity? := by
  intro entry hEntry
  rw [AcceptedRecord.identity?, identity?, unum_of_mem_sift taken records entry hEntry]

/-- No kept entry names a player that is used up. -/
theorem not_mem_of_identity_sift (taken : List Identity) (records : List (PlayerObservation R))
    {identity : Identity}
    (hIdentity : identity ∈ (sift taken records).1.filterMap AcceptedRecord.identity?) :
    identity ∉ taken := by
  induction records generalizing taken with
  | nil => contradiction
  | cons record rest ih =>
      cases hCheck : record.check taken with
      | error fault =>
          rw [sift_cons_of_error hCheck] at hIdentity
          exact ih taken hIdentity
      | ok unum =>
          obtain ⟨-, -, hFree⟩ := (check_eq_ok_iff record taken unum).mp hCheck
          rw [sift_cons_of_ok hCheck, List.filterMap_cons, identity?_of_check hCheck]
            at hIdentity
          cases hRecord : record.identity? with
          | none =>
              rw [hRecord] at hIdentity
              exact ih _ hIdentity
          | some own =>
              rw [hRecord] at hIdentity
              rcases List.mem_cons.mp hIdentity with rfl | hRest
              · exact hFree _ hRecord
              · intro hTaken
                exact ih _ hRest (List.mem_append_right _ hTaken)

/-- The kept entries name pairwise different players. -/
theorem nodup_identities_sift (taken : List Identity) (records : List (PlayerObservation R)) :
    ((sift taken records).1.filterMap AcceptedRecord.identity?).Nodup := by
  induction records generalizing taken with
  | nil => exact List.nodup_nil
  | cons record rest ih =>
      cases hCheck : record.check taken with
      | error fault =>
          rw [sift_cons_of_error hCheck]
          exact ih taken
      | ok unum =>
          rw [sift_cons_of_ok hCheck, List.filterMap_cons, identity?_of_check hCheck]
          cases hRecord : record.identity? with
          | none => exact ih _
          | some own =>
              refine List.nodup_cons.mpr ⟨?_, ih _⟩
              intro hOwn
              exact not_mem_of_identity_sift _ rest hOwn (List.mem_cons_self)

/-! ## The record kept for one player -/

/-- The record is of a player on an assigned side, and of this one. -/
def names (identity : Identity) (record : PlayerObservation R) : Bool :=
  record.side.isAssigned && record.identity? = some identity

/-- The first record of an observation that names a player. -/
def firstNaming (identity : Identity) (records : List (PlayerObservation R)) :
    Option (PlayerObservation R) :=
  records.find? (names identity)

theorem names_eq_true_iff {identity : Identity} {record : PlayerObservation R} :
    record.names identity = true ↔
      record.IsWellFormed ∧ record.identity? = some identity := by
  simp only [names, Bool.and_eq_true, decide_eq_true_eq]
  constructor
  · rintro ⟨hSide, hIdentity⟩
    refine ⟨⟨hSide, ?_⟩, hIdentity⟩
    intro raw hUnum
    by_contra hRange
    rw [identity?, number?, hUnum, Option.bind_some,
      (ofNat?_toNat_eq_none_iff raw).mpr hRange] at hIdentity
    contradiction
  · rintro ⟨hWellFormed, hIdentity⟩
    exact ⟨hWellFormed.1, hIdentity⟩

/-- A record that names a player passes the checks while the player is not used up. -/
theorem check_of_names {identity : Identity} {taken : List Identity}
    {record : PlayerObservation R} (hNames : record.names identity = true)
    (hTaken : identity ∉ taken) : record.check taken = .ok record.number? := by
  obtain ⟨hWellFormed, hIdentity⟩ := names_eq_true_iff.mp hNames
  refine (check_eq_ok_iff record taken _).mpr ⟨hWellFormed, rfl, ?_⟩
  intro own hOwn
  rw [hIdentity] at hOwn
  obtain rfl := Option.some.inj hOwn
  exact hTaken

/-- Of all records that name a player, the first is kept and no other, unless the player is used
up before the first. -/
theorem filter_identity_sift (identity : Identity) (taken : List Identity)
    (records : List (PlayerObservation R)) :
    (sift taken records).1.filter (fun entry => entry.identity? = some identity) =
      if identity ∈ taken then []
      else ((firstNaming identity records).map (AcceptedRecord.mk (some identity.unum))).toList := by
  induction records generalizing taken with
  | nil => simp [sift, firstNaming]
  | cons record rest ih =>
      cases hCheck : record.check taken with
      | error fault =>
          rw [sift_cons_of_error hCheck, ih]
          by_cases hTaken : identity ∈ taken
          · rw [if_pos hTaken, if_pos hTaken]
          · have hOther : ¬ record.names identity = true := by
              intro hNames
              rw [check_of_names hNames hTaken] at hCheck
              contradiction
            rw [if_neg hTaken, if_neg hTaken, firstNaming, firstNaming,
              List.find?_cons_of_neg hOther]
      | ok unum =>
          obtain ⟨hWellFormed, hNumber, hFree⟩ := (check_eq_ok_iff record taken unum).mp hCheck
          rw [sift_cons_of_ok hCheck, List.filter_cons, identity?_of_check hCheck, ih]
          by_cases hOwn : record.identity? = some identity
          · have hNames : record.names identity = true :=
              names_eq_true_iff.mpr ⟨hWellFormed, hOwn⟩
            have hUnum : unum = some identity.unum := by
              rw [← hNumber]
              rw [identity?, Option.map_eq_some_iff] at hOwn
              obtain ⟨number, hSome, rfl⟩ := hOwn
              exact hSome
            rw [if_pos (decide_eq_true hOwn), hOwn, if_pos (by simp), if_neg (hFree identity hOwn),
              firstNaming, List.find?_cons_of_pos hNames, hUnum]
            rfl
          · have hNames : ¬ record.names identity = true := fun hNames =>
              hOwn (names_eq_true_iff.mp hNames).2
            have hTaken : identity ∈ record.identity?.toList ++ taken ↔ identity ∈ taken := by
              simp [hOwn]
            rw [if_neg (by simp [hOwn]), firstNaming, firstNaming,
              List.find?_cons_of_neg hNames]
            simp only [hTaken]

/-! ## The kept and the dropped records by position -/

/-- Before position `i`, the players in `taken` are those that accepted records name. -/
def TakenBefore (records : List (PlayerObservation R)) (i : Nat) (taken : List Identity) : Prop :=
  ∀ identity, identity ∈ taken ↔
    ∃ j, j < i ∧ IsAccepted records j ∧
      ∃ earlier, records[j]? = some earlier ∧ earlier.identity? = some identity

theorem takenBefore_zero (records : List (PlayerObservation R)) : TakenBefore records 0 [] := by
  intro identity
  simp

theorem IsAccepted.isWellFormed {records : List (PlayerObservation R)} {i : Nat}
    {record : PlayerObservation R} (hAccepted : IsAccepted records i)
    (hRecord : records[i]? = some record) : record.IsWellFormed := by
  rw [IsAccepted] at hAccepted
  obtain ⟨record', hRecord', hWellFormed, -⟩ := hAccepted
  obtain rfl := Option.some.inj (hRecord.symm.trans hRecord')
  exact hWellFormed

/-- With the players of earlier accepted records used up, the checks decide acceptance. -/
theorem isAccepted_iff_check {records : List (PlayerObservation R)} {i : Nat}
    {taken : List Identity} (hTaken : TakenBefore records i taken)
    {record : PlayerObservation R} (hRecord : records[i]? = some record) :
    IsAccepted records i ↔ record.check taken = .ok record.number? := by
  rw [check_eq_ok_iff, IsAccepted]
  constructor
  · rintro ⟨record', hRecord', hWellFormed, hFirst⟩
    obtain rfl := Option.some.inj (hRecord.symm.trans hRecord')
    refine ⟨hWellFormed, rfl, ?_⟩
    intro identity hIdentity hMem
    obtain ⟨j, hBefore, hAccepted, earlier, hEarlier, hEarlierIdentity⟩ := (hTaken identity).mp hMem
    exact hFirst j hBefore hAccepted earlier hEarlier
      ((sameIdentity_iff (hAccepted.isWellFormed hEarlier)).mpr
        ⟨identity, hEarlierIdentity, hIdentity⟩)
  · rintro ⟨hWellFormed, -, hFree⟩
    refine ⟨record, hRecord, hWellFormed, ?_⟩
    intro j hBefore hAccepted earlier hEarlier hSame
    obtain ⟨identity, hEarlierIdentity, hIdentity⟩ :=
      (sameIdentity_iff (hAccepted.isWellFormed hEarlier)).mp hSame
    exact hFree identity hIdentity
      ((hTaken identity).mpr ⟨j, hBefore, hAccepted, earlier, hEarlier, hEarlierIdentity⟩)

/-- An accepted record uses up its player. -/
theorem TakenBefore.succ_of_isAccepted {records : List (PlayerObservation R)} {i : Nat}
    {taken : List Identity} (hTaken : TakenBefore records i taken)
    {record : PlayerObservation R} (hRecord : records[i]? = some record)
    (hAccepted : IsAccepted records i) :
    TakenBefore records (i + 1) (record.identity?.toList ++ taken) := by
  intro identity
  rw [List.mem_append, Option.mem_toList, hTaken identity]
  constructor
  · rintro (hOwn | ⟨j, hBefore, hEarlier⟩)
    · exact ⟨i, by omega, hAccepted, record, hRecord, hOwn⟩
    · exact ⟨j, by omega, hEarlier⟩
  · rintro ⟨j, hBefore, hAcceptedBefore, earlier, hEarlier, hIdentity⟩
    rcases Nat.lt_succ_iff_lt_or_eq.mp hBefore with hLess | rfl
    · exact Or.inr ⟨j, hLess, hAcceptedBefore, earlier, hEarlier, hIdentity⟩
    · obtain rfl := Option.some.inj (hRecord.symm.trans hEarlier)
      exact Or.inl hIdentity

/-- Any other record uses up no player. -/
theorem TakenBefore.succ_of_not_isAccepted {records : List (PlayerObservation R)} {i : Nat}
    {taken : List Identity} (hTaken : TakenBefore records i taken)
    (hRejected : ¬ IsAccepted records i) : TakenBefore records (i + 1) taken := by
  intro identity
  rw [hTaken identity]
  constructor
  · rintro ⟨j, hBefore, hEarlier⟩
    exact ⟨j, by omega, hEarlier⟩
  · rintro ⟨j, hBefore, hAccepted, hEarlier⟩
    rcases Nat.lt_succ_iff_lt_or_eq.mp hBefore with hLess | rfl
    · exact ⟨j, hLess, hAccepted, hEarlier⟩
    · exact absurd hAccepted hRejected

open Classical in
/-- From any position on, `sift` keeps the accepted records and reports a fault for each other
one, when the players of earlier accepted records are used up. -/
theorem sift_drop (records rest : List (PlayerObservation R)) (i : Nat) (taken : List Identity)
    (hRest : records.drop i = rest) (hTaken : TakenBefore records i taken) :
    (sift taken rest).1.map AcceptedRecord.record =
        ((rest.zipIdx i).filter fun entry => IsAccepted records entry.2).map Prod.fst ∧
      List.Forall₂ IsFaultOf
        (((rest.zipIdx i).filter fun entry => ¬ IsAccepted records entry.2).map Prod.fst)
        (sift taken rest).2 := by
  -- The invariant is `TakenBefore`: an accepted record moves it on with its own player added, any
  -- other record moves it on as it is.
  induction rest generalizing i taken with
  | nil => exact ⟨rfl, List.Forall₂.nil⟩
  | cons record rest ih =>
      have hRecord : records[i]? = some record := by
        rw [← List.head?_drop, hRest]
        rfl
      have hNext : records.drop (i + 1) = rest := by
        rw [← List.tail_drop, hRest]
        rfl
      rw [List.zipIdx_cons]
      by_cases hAccepted : IsAccepted records i
      · have hCheck := (isAccepted_iff_check hTaken hRecord).mp hAccepted
        obtain ⟨hKept, hDropped⟩ :=
          ih (i + 1) _ hNext (hTaken.succ_of_isAccepted hRecord hAccepted)
        rw [sift_cons_of_ok hCheck, List.filter_cons_of_pos (by simpa using hAccepted),
          List.filter_cons_of_neg (by simpa using hAccepted), List.map_cons, List.map_cons, hKept]
        exact ⟨rfl, hDropped⟩
      · cases hCheck : record.check taken with
        | ok unum =>
            obtain ⟨-, hNumber, -⟩ := (check_eq_ok_iff record taken unum).mp hCheck
            rw [← hNumber] at hCheck
            exact absurd ((isAccepted_iff_check hTaken hRecord).mpr hCheck) hAccepted
        | error fault =>
            obtain ⟨hKept, hDropped⟩ :=
              ih (i + 1) taken hNext (hTaken.succ_of_not_isAccepted hAccepted)
            rw [sift_cons_of_error hCheck, List.filter_cons_of_neg (by simpa using hAccepted),
              List.filter_cons_of_pos (by simpa using hAccepted), List.map_cons, hKept]
            exact ⟨rfl, List.Forall₂.cons (isFaultOf_of_check hCheck) hDropped⟩

/-- The kept records are the accepted ones. -/
theorem map_record_sift (records : List (PlayerObservation R)) :
    (sift [] records).1.map AcceptedRecord.record = acceptedRecords records :=
  (sift_drop records records 0 [] List.drop_zero (takenBefore_zero records)).1

/-- The reported faults are those of the other records. -/
theorem isFaultOf_sift (records : List (PlayerObservation R)) :
    List.Forall₂ IsFaultOf (rejectedRecords records) (sift [] records).2 :=
  (sift_drop records records 0 [] List.drop_zero (takenBefore_zero records)).2

/-- A well-formed record that is not accepted follows an accepted one of the same player. -/
theorem exists_isAccepted_of_duplicate {records : List (PlayerObservation R)} {i : Nat}
    {record : PlayerObservation R} (hRecord : records[i]? = some record)
    (hWellFormed : record.IsWellFormed) (hRejected : ¬ IsAccepted records i) :
    ∃ j, j < i ∧ IsAccepted records j ∧
      ∃ earlier, records[j]? = some earlier ∧ earlier.SameIdentity record := by
  by_contra hNone
  apply hRejected
  rw [IsAccepted]
  refine ⟨record, hRecord, hWellFormed, ?_⟩
  intro j hBefore hAccepted earlier hEarlier hSame
  exact hNone ⟨j, hBefore, hAccepted, earlier, hEarlier, hSame⟩

open Classical in
/-- Every record is accepted or not. -/
theorem length_acceptedRecords_add_rejectedRecords (records : List (PlayerObservation R)) :
    (acceptedRecords records).length + (rejectedRecords records).length = records.length := by
  unfold acceptedRecords rejectedRecords
  rw [List.length_map, List.length_map]
  have hSplit := List.length_eq_length_filter_add (l := records.zipIdx)
    fun entry => decide (IsAccepted records entry.2)
  rw [List.length_zipIdx] at hSplit
  rw [hSplit]
  simp only [decide_not]

end PlayerObservation

end SoccerWorld

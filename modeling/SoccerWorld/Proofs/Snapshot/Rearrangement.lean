import SoccerWorld.Proofs.Snapshot.Tracking

/-!
# Records in another order

The checks go through the records in order, because the first record of a player uses up the player
for later ones.  Where no two well-formed records are of one player nothing is used up twice: each
record is kept or dropped on its own account (`sift_eq_filterMap`), so that in another order the
same records are kept, the same faults reported (`sift_perm`) and the same players tracked
(`Tracking.players_perm`).
-/

namespace SoccerWorld

variable {R : Type} [Scalar R]

namespace PlayerObservation

/-- No two well-formed records are of one player. -/
def AreOfDistinctPlayers (records : List (PlayerObservation R)) : Prop :=
  records.Pairwise fun a b => a.IsWellFormed → b.IsWellFormed → ¬ a.SameIdentity b

/-- The entry of a record on its own, where it passes the checks. -/
def kept? (record : PlayerObservation R) : Option (AcceptedRecord R) :=
  match record.check [] with
  | .ok unum => some ⟨unum, record⟩
  | .error _ => none

/-- The fault of a record on its own, where it has one. -/
def fault? (record : PlayerObservation R) : Option RecordFault :=
  match record.check [] with
  | .ok _ => none
  | .error fault => some fault

theorem SameIdentity.symm {earlier later : PlayerObservation R}
    (hSame : earlier.SameIdentity later) : later.SameIdentity earlier := by
  obtain ⟨raw, hEarlier, hLater, hSide⟩ := hSame
  exact ⟨raw, hLater, hEarlier, hSide.symm⟩

theorem AreOfDistinctPlayers.perm {records others : List (PlayerObservation R)}
    (hDistinct : AreOfDistinctPlayers records) (hPerm : records.Perm others) :
    AreOfDistinctPlayers others := by
  refine hPerm.pairwise hDistinct ?_
  intro a b hDifferent hWellFormed hWellFormed' hSame
  exact hDifferent hWellFormed' hWellFormed hSame.symm

/-- Players that a record does not name do not matter for its checks. -/
theorem check_eq_of_free {record : PlayerObservation R} {taken : List Identity}
    (hFree : ∀ identity, record.names identity = true → identity ∉ taken) :
    record.check taken = record.check [] := by
  unfold check
  cases hSide : record.side.isAssigned with
  | false => rfl
  | true =>
      cases hUnum : record.unum with
      | none => rfl
      | some raw =>
          dsimp only
          cases hNumber : Unum.ofNat? raw.toNat with
          | none => rfl
          | some unum =>
              have hNames : record.names ⟨record.side, unum⟩ = true := by
                simp [names, identity?, number?, hSide, hUnum, hNumber]
              dsimp only
              rw [if_neg (hFree _ hNames), if_neg List.not_mem_nil]

/-- Among records of distinct players each one stands for itself. -/
theorem sift_eq_filterMap (taken : List Identity) (records : List (PlayerObservation R))
    (hFree : ∀ record ∈ records, ∀ identity, record.names identity = true → identity ∉ taken)
    (hDistinct : AreOfDistinctPlayers records) :
    sift taken records = (records.filterMap kept?, records.filterMap fault?) := by
  -- What is used up on the way are players of records before, which no later record names.
  induction records generalizing taken with
  | nil => rfl
  | cons record rest ih =>
      obtain ⟨hOthers, hRest⟩ := List.pairwise_cons.mp hDistinct
      have hFreeRest : ∀ later ∈ rest, ∀ identity, later.names identity = true →
          identity ∉ taken :=
        fun later hLater => hFree later (List.mem_cons_of_mem _ hLater)
      have hAlone := check_eq_of_free (hFree record List.mem_cons_self)
      cases hCheck : record.check [] with
      | error fault =>
          rw [hCheck] at hAlone
          have hKept : record.kept? = none := by rw [kept?, hCheck]
          have hFault : record.fault? = some fault := by rw [fault?, hCheck]
          rw [sift_cons_of_error hAlone, ih taken hFreeRest hRest,
            List.filterMap_cons_none hKept, List.filterMap_cons_some hFault]
      | ok unum =>
          rw [hCheck] at hAlone
          have hKept : record.kept? = some ⟨unum, record⟩ := by rw [kept?, hCheck]
          have hFault : record.fault? = none := by rw [fault?, hCheck]
          have hWellFormed := ((check_eq_ok_iff record _ unum).mp hCheck).1
          have hFreeNext : ∀ later ∈ rest, ∀ identity, later.names identity = true →
              identity ∉ record.identity?.toList ++ taken := by
            intro later hLater identity hNames hMem
            rcases List.mem_append.mp hMem with hOwn | hTaken
            · obtain ⟨hLaterWellFormed, hIdentity⟩ := names_eq_true_iff.mp hNames
              exact hOthers later hLater hWellFormed hLaterWellFormed
                ((sameIdentity_iff hWellFormed).mpr
                  ⟨identity, Option.mem_toList.mp hOwn, hIdentity⟩)
            · exact hFreeRest later hLater identity hNames hTaken
          rw [sift_cons_of_ok hAlone, ih _ hFreeNext hRest, List.filterMap_cons_some hKept,
            List.filterMap_cons_none hFault]

/-- Records of distinct players in another order: the same are kept, and the same faults are
reported. -/
theorem sift_perm {records others : List (PlayerObservation R)} (hPerm : records.Perm others)
    (hDistinct : AreOfDistinctPlayers records) :
    (sift [] records).1.Perm (sift [] others).1 ∧ (sift [] records).2.Perm (sift [] others).2 := by
  rw [sift_eq_filterMap [] records (fun _ _ _ _ => List.not_mem_nil) hDistinct,
    sift_eq_filterMap [] others (fun _ _ _ _ => List.not_mem_nil) (hDistinct.perm hPerm)]
  exact ⟨hPerm.filterMap kept?, hPerm.filterMap fault?⟩

end PlayerObservation

namespace Tracking

/-- Players roll on depending on which others were seen, and not in which order. -/
theorem rolling_congr (maxUnseen : UInt32) {seen seen' : List Identity} (hPerm : seen.Perm seen')
    (previous : Option (Snapshot R)) :
    rolling maxUnseen seen previous = rolling maxUnseen seen' previous := by
  have hRolls : rollsOn (R := R) maxUnseen seen = rollsOn maxUnseen seen' := by
    funext player
    simp only [rollsOn, hPerm.mem_iff]
  unfold rolling
  rw [hRolls]

/-- Accepted records in another order lead to the same players, in another order. -/
theorem players_perm (types : TypeRegistry R) (maxUnseen : UInt32) (view : Perspective)
    (previous : Option (Snapshot R)) {accepted accepted' : List (AcceptedRecord R)}
    (hPerm : accepted.Perm accepted') :
    (players types maxUnseen view previous accepted).Perm
      (players types maxUnseen view previous accepted') := by
  rw [players_eq, players_eq,
    rolling_congr maxUnseen (hPerm.filterMap AcceptedRecord.identity?) previous]
  exact (hPerm.map _).append_right _

end Tracking

end SoccerWorld

import MPQuic.FlowControl.ReceiveWindow

/-!
# The credit that the peer grants

The send window of a controller is the negotiated one until the first WINDOW_UPDATE, and the
stored one afterwards. The stored window starts at zero, which also stands for "no update yet", so
that the first update is compared with zero and not with the window in force: a first update below
the negotiated window takes credit back (`sendCredit_takenBack`). From then on the stored window is
the largest offset, and if the first one that is not zero reaches the negotiated window, no credit
is ever lost (`sendCredit_kept_iff`).
-/

namespace MPQuic

open List

namespace FlowController

/-- The stored window is the largest offset so far. -/
theorem sendWindow_updateSendWindow (c : FlowController) (newOffset : Nat) :
    (c.updateSendWindow newOffset).1 = { c with sendWindow := max c.sendWindow newOffset } := by
  unfold updateSendWindow
  split
  · rename_i above
    rw [max_eq_right (le_of_lt above)]
  · rename_i below
    rw [max_eq_left (not_lt.mp below)]

theorem getSendWindow_of_ne_zero {c : FlowController} (updated : c.sendWindow ≠ 0)
    (params : ConnectionParametersManager) : c.getSendWindow params = c.sendWindow := by
  rw [getSendWindow, if_neg updated]

/-- Zero in place of the stored window brings the negotiated window back. -/
theorem getSendWindow_zero {c : FlowController} (fresh : c.sendWindow = 0)
    (params : ConnectionParametersManager) :
    ({ c with sendWindow := 0 } : FlowController).getSendWindow params =
      c.getSendWindow params := by
  unfold getSendWindow
  rw [if_pos fresh, if_pos rfl]

end FlowController

namespace FlowControlManager

variable {f : FlowControlManager} {streamID : Nat} {c : FlowController} {offsets : List Nat}

/-- The manager after WINDOW_UPDATE frames for one stream, or for the connection. -/
def afterUpdates (f : FlowControlManager) (streamID : Nat) (offsets : List Nat) :
    FlowControlManager :=
  offsets.foldl (fun f offset => f.updateWindow streamID offset) f

/-- The send window in force. -/
def effectiveWindow (f : FlowControlManager) (streamID : Nat) : Option Nat :=
  (f.controller streamID).map fun c => c.getSendWindow f.connectionParameters

section

variable (found : f.controller streamID = some c)

include found

theorem controller_updateWindow (offset : Nat) :
    (f.updateWindow streamID offset).controller streamID =
        some { c with sendWindow := max c.sendWindow offset } ∧
      (f.updateWindow streamID offset).connectionParameters = f.connectionParameters := by
  unfold controller at found ⊢
  unfold updateWindow
  by_cases connection : streamID = 0
  · rw [if_pos connection] at found
    obtain rfl := Option.some.inj found
    rw [if_pos connection, if_pos connection]
    exact ⟨congrArg some (FlowController.sendWindow_updateSendWindow _ _), rfl⟩
  · rw [if_neg connection] at found
    rw [if_neg connection, if_neg connection, found]
    refine ⟨?_, rfl⟩
    rw [← FlowController.sendWindow_updateSendWindow]
    exact AList.lookup_insert _

/-- The stored window after any updates, in any order. -/
theorem controller_afterUpdates (offsets : List Nat) :
    (f.afterUpdates streamID offsets).controller streamID =
        some { c with sendWindow := offsets.foldl max c.sendWindow } ∧
      (f.afterUpdates streamID offsets).connectionParameters = f.connectionParameters := by
  unfold afterUpdates
  induction offsets generalizing f c with
  | nil => exact ⟨found, rfl⟩
  | cons offset offsets ih =>
    obtain ⟨updated, params⟩ := controller_updateWindow found offset
    obtain ⟨after, params'⟩ := ih updated
    exact ⟨after, params'.trans params⟩

/-- The negotiated window is in force as long as all offsets were zero. -/
theorem effectiveWindow_afterUpdates (fresh : c.sendWindow = 0) (offsets : List Nat) :
    (f.afterUpdates streamID offsets).effectiveWindow streamID =
      some (if offsets.foldl max 0 = 0 then c.getSendWindow f.connectionParameters
        else offsets.foldl max 0) := by
  obtain ⟨after, params⟩ := controller_afterUpdates found offsets
  rw [effectiveWindow, after, params, fresh, Option.map_some]
  refine congrArg some ?_
  split
  · rename_i zero
    rw [zero]
    exact FlowController.getSendWindow_zero fresh _
  · rename_i updated
    exact FlowController.getSendWindow_of_ne_zero updated _

end

/-- The window in force is the largest of the negotiated one and the offsets, at any time, and
so it never decreases. -/
def KeepsCredit (f : FlowControlManager) (streamID negotiated : Nat) (offsets : List Nat) :
    Prop :=
  ∀ front, front <+: offsets →
    (f.afterUpdates streamID front).effectiveWindow streamID =
        some (front.foldl max negotiated) ∧
      ∀ offset, front ++ [offset] <+: offsets →
        ∀ before ∈ (f.afterUpdates streamID front).effectiveWindow streamID,
          ∀ after ∈ (f.afterUpdates streamID (front ++ [offset])).effectiveWindow streamID,
            before ≤ after

end FlowControlManager

/-! ## The largest offset -/

theorem foldl_max_eq (a : Nat) (offsets : List Nat) :
    offsets.foldl max a = max a (offsets.foldl max 0) := by
  have assoc : offsets.foldl max (max a 0) = max a (offsets.foldl max 0) := foldl_assoc
  rwa [Nat.max_zero] at assoc

theorem le_foldl_max {offset : Nat} {offsets : List Nat} (mem : offset ∈ offsets) (a : Nat) :
    offset ≤ offsets.foldl max a := by
  obtain ⟨front, back, rfl⟩ := append_of_mem mem
  rw [foldl_append, foldl_cons, foldl_max_eq]
  exact (le_max_right _ _).trans (le_max_left _ _)

theorem foldl_max_of_zeros {offsets : List Nat} (zeros : ∀ offset ∈ offsets, ¬0 < offset) :
    offsets.foldl max 0 = 0 := by
  induction offsets with
  | nil => rfl
  | cons offset offsets ih =>
    obtain ⟨zero, later⟩ := forall_mem_cons.mp zeros
    rw [foldl_cons, max_eq_left (not_lt.mp zero)]
    exact ih later

/-- The first offset that is not zero reaches the window. -/
theorem first_reaches_iff (negotiated : Nat) (offsets : List Nat) :
    (∀ front, front <+: offsets →
        front.foldl max 0 = 0 ∨ negotiated ≤ front.foldl max 0) ↔
      ∀ first ∈ offsets.find? (0 < ·), negotiated ≤ first := by
  constructor
  · intro reaches first isFirst
    obtain ⟨positive, zeros, later, split, allZero⟩ := find?_eq_some_iff_append.mp isFirst
    have here : zeros ++ [first] <+: offsets := by
      rw [split]
      exact ⟨later, by simp⟩
    have largest : (zeros ++ [first]).foldl max 0 = first := by
      have before : zeros.foldl max 0 = 0 :=
        foldl_max_of_zeros fun offset mem => by simpa using allZero offset mem
      rw [foldl_append, before, foldl_cons, foldl_nil, Nat.zero_max]
    have nonzero : first ≠ 0 := Nat.pos_iff_ne_zero.mp (of_decide_eq_true positive)
    rw [← largest]
    exact (reaches _ here).resolve_left (largest.symm ▸ nonzero)
  · intro reaches front isPrefix
    cases isFirst : front.find? (0 < ·) with
    | none =>
      refine Or.inl (foldl_max_of_zeros fun offset mem positive => ?_)
      exact find?_eq_none.mp isFirst offset mem (decide_eq_true positive)
    | some first =>
      obtain ⟨back, rfl⟩ := isPrefix
      have mem := mem_of_find?_eq_some isFirst
      refine Or.inr ((reaches first ?_).trans (le_foldl_max mem 0))
      rw [find?_append, isFirst]
      rfl

/-- Credit is never taken back exactly if the first WINDOW_UPDATE that is not zero reaches the
negotiated window. -/
theorem sendCredit_kept_iff {f : FlowControlManager} {streamID : Nat} {c : FlowController}
    (found : f.controller streamID = some c) (fresh : c.sendWindow = 0) (offsets : List Nat) :
    f.KeepsCredit streamID (c.getSendWindow f.connectionParameters) offsets ↔
      ∀ first ∈ offsets.find? (0 < ·), c.getSendWindow f.connectionParameters ≤ first := by
  rw [← first_reaches_iff]
  generalize negotiatedEq : c.getSendWindow f.connectionParameters = negotiated
  have window := FlowControlManager.effectiveWindow_afterUpdates found fresh
  rw [negotiatedEq] at window
  constructor
  · intro keeps front isPrefix
    have largest := Option.some.inj ((window front).symm.trans (keeps front isPrefix).1)
    rw [foldl_max_eq negotiated front] at largest
    split at largest
    · rename_i zero
      exact Or.inl zero
    · exact Or.inr (by omega)
  · intro reaches
    have exactly : ∀ front, front <+: offsets →
        (f.afterUpdates streamID front).effectiveWindow streamID =
          some (front.foldl max negotiated) := by
      intro front isPrefix
      rw [window, foldl_max_eq negotiated front]
      have reached := reaches front isPrefix
      refine congrArg some ?_
      split <;> omega
    intro front isPrefix
    refine ⟨exactly front isPrefix, fun offset longer before isBefore after isAfter => ?_⟩
    rw [exactly front isPrefix] at isBefore
    rw [exactly _ longer, foldl_append] at isAfter
    obtain rfl := Option.some.inj isBefore
    obtain rfl := Option.some.inj isAfter
    exact le_max_left _ _

/-- The first update of the connection raises its window, and smaller ones come late. -/
theorem sendCredit_kept_reordered :
    (newFlowControlManager (serverParameters 0 0)).KeepsCredit 0 16384
      [20000, 17000, 30000, 100] := by
  have found : (newFlowControlManager (serverParameters 0 0)).controller 0 =
      some (newFlowController 0 false (serverParameters 0 0)) := rfl
  exact (sendCredit_kept_iff found rfl _).mpr (by decide)

/-- A first update to 100 lowers the window from 16384 to 100. -/
theorem sendCredit_takenBack :
    let f := newFlowControlManager (serverParameters 0 0)
    f.effectiveWindow 0 = some 16384 ∧ (f.updateWindow 0 100).effectiveWindow 0 = some 100 ∧
      ¬f.KeepsCredit 0 16384 [100] := by
  refine ⟨rfl, rfl, fun keeps => ?_⟩
  have largest := (keeps [100] (prefix_refl _)).1
  exact absurd largest (by decide)

end MPQuic

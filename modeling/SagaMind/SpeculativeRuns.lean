import SagaMind.Speculative.History
import Mathlib.Data.Nat.Find

/-!
# Speculative runs beside one another

All runs share one dictionary of sandboxes, and a selection invalidates the entries of
every other run. A selection is exact when, since its first validated draft came back,
no draft came back under the same sandbox id and no other run that has a validated
draft was selected. Where the drafts of a history have pairwise different actions, the
selections of the history are exact only then.
-/

namespace SagaMind.Speculative

open KeyedTable

set_option autoImplicit false

variable {Args : Type}

section Statements

/-- What `select_winner` owes a run: the first draft whose validation succeeded, and
`None` only if there is none. -/
structure WinnerExact (history : List (Event Args)) (run : Nat)
    (winner : Option (ActionPayload Args)) : Prop where
  first : ∀ index drawn, FirstValidated history run index →
    draftAt history run index = some drawn → winner = some drawn.2.action
  none_iff : winner = none ↔ ∀ index, ¬ Validated history run index

/-- Selecting the run after the history is exact. -/
def SelectsExactly (history : List (Event Args)) (run : Nat) : Prop :=
  ∀ state after winner, replay history = some state → selectRun state run = some (after, winner) →
    WinnerExact history run (winner.map Prod.snd)

inductive Disturbs (history : List (Event Args)) (run index : Nat) : Event Args → Prop where
  | sameSandbox {other place : Nat} {sandboxId : String} {draft own : Draft Args} (verdict : Verdict)
      (theirs : draftAt history other place = some (sandboxId, draft))
      (ours : draftAt history run index = some (sandboxId, own)) :
      Disturbs history run index (.finish other place verdict)
  | selection {other place : Nat} (apart : other ≠ run) (validated : Validated history other place) :
      Disturbs history run index (.select other)

def Quiet (history : List (Event Args)) (run index : Nat) : Prop :=
  ∃ early verdict late, history = early ++ .finish run index verdict :: late ∧
    ∀ event ∈ late, ¬ Disturbs history run index event

/-- Nothing spoiled the entry of the run's first validated draft. -/
def Undisturbed (history : List (Event Args)) (run : Nat) : Prop :=
  ∀ index, FirstValidated history run index → Quiet history run index

/-- No two drafts of the history propose the same action. -/
def DistinctActions (history : List (Event Args)) : Prop :=
  ∀ run index drawn other place theirs, draftAt history run index = some drawn →
    draftAt history other place = some theirs → drawn.2.action = theirs.2.action →
      run = other ∧ index = place

end Statements

section Entries

/-- The entry of the draft is in the dictionary, valid and its own. -/
def Held (state : State Args) (drawn : String × Draft Args) : Prop :=
  ∃ entry, state.active.find? drawn.1 = some entry ∧ entry.valid = true ∧
    entry.action = drawn.2.action

theorem held_finish {state after : State Args} {run index : Nat} {verdict : Verdict}
    {slot : Slot Args} (finishes : Finishes state run index verdict after slot)
    (success : verdict.success = true) : Held after slot.drawn := by
  refine ⟨draftEntry slot.sandboxId slot.draft verdict, ?_, success, rfl⟩
  rw [finishes.active, Table.find_put]
  exact if_pos rfl

/-- The selection of a run whose first validated draft is held chooses that draft. -/
theorem select_held {history : List (Event Args)} {state after : State Args} {run index : Nat}
    {winner : Option (String × ActionPayload Args)} {results : List DraftResult}
    {drawn : String × Draft Args} (reflects : Reflects history state)
    (selects : Selects state run after winner results)
    (known : draftAt history run index = some drawn)
    (first : FirstValidated history run index) (held : Held state drawn) :
    selectWinner state.active results =
      (discardOthers state.active drawn.1, some (drawn.1, drawn.2.action)) := by
  rcases held with ⟨entry, stored, valid, own⟩
  rcases first.1 with ⟨stateDiffHash, member⟩
  have back := reflects.finished run index (.valid stateDiffHash) member
  rcases back with ⟨slot, there, done⟩
  have same : slot.drawn = drawn := by
    have slots := slot_drawn reflects there
    rw [known, Option.some.injEq] at slots
    exact slots.symm
  have found : results[index]? =
      some (draftResult slot.sandboxId slot.draft (.valid stateDiffHash)) := by
    rw [selects.get, there]
    exact done
  have earlierFail : ∀ earlier < index, ∀ other, results[earlier]? = some other →
      other.success = false := by
    intro earlier below other atEarlier
    rw [selects.get, Option.bind_eq_some_iff] at atEarlier
    rcases atEarlier with ⟨otherSlot, otherThere, otherDone⟩
    have cause := reflects.results run earlier otherSlot other otherThere otherDone
    rcases cause with ⟨verdict, told, value⟩
    cases verdict with
    | valid otherHash => exact absurd ⟨otherHash, told⟩ (first.2 earlier below)
    | invalid error => rw [value, draft_result_success, Verdict.success]
  rw [← same] at stored
  have chosen := select_winner_first found rfl earlierFail stored valid
  rw [chosen, own, ← same]
  rfl

/-- The selection of a run without a validated draft chooses nothing. -/
theorem select_idle {history : List (Event Args)} {state after : State Args} {run : Nat}
    {winner : Option (String × ActionPayload Args)} {results : List DraftResult}
    (reflects : Reflects history state) (selects : Selects state run after winner results)
    (idle : ∀ index, ¬ Validated history run index) :
    selectWinner state.active results = (state.active, none) := by
  apply select_winner_none
  intro result member
  rw [List.mem_iff_getElem?] at member
  rcases member with ⟨index, place⟩
  rw [selects.get, Option.bind_eq_some_iff] at place
  rcases place with ⟨slot, there, done⟩
  have cause := reflects.results run index slot result there done
  rcases cause with ⟨verdict, told, value⟩
  cases verdict with
  | valid stateDiffHash => exact absurd ⟨stateDiffHash, told⟩ (idle index)
  | invalid error => rw [value, draft_result_success, Verdict.success]

/-- A held entry survives every event that does not disturb it. -/
theorem held_step {early late : List (Event Args)} {state after : State Args} {run index : Nat}
    {drawn : String × Draft Args} {event : Event Args} (reflects : Reflects early state)
    (ran : step state event = some after) (known : draftAt early run index = some drawn)
    (validated : Validated early run index)
    (first : FirstValidated (early ++ late) run index)
    (quiet : ¬ Disturbs (early ++ late) run index event) (held : Held state drawn) :
    Held after drawn := by
  cases event with
  | start drafts =>
      rw [step, Option.some.injEq] at ran
      subst ran
      exact held
  | finish other place verdict =>
      have inverted := finish_cases ran
      rcases inverted with ⟨slot, finishes⟩
      have theirs := slot_drawn reflects finishes.waiting
      have apart : slot.sandboxId ≠ drawn.1 := by
        intro same
        apply quiet
        have named : draftAt (early ++ late) run index = some (slot.sandboxId, drawn.2) := by
          rw [draft_at_append known, same]
        exact .sameSandbox verdict (draft_at_append theirs late) named
      rcases held with ⟨entry, stored, rest⟩
      refine ⟨entry, ?_, rest⟩
      rw [finishes.active, Table.find_put]
      exact (if_neg apart).trans stored
  | select other =>
      have selected := step_select ran
      rcases selected with ⟨winner, selected⟩
      have inverted := select_cases selected
      rcases inverted with ⟨results, selects⟩
      have pair := selects.selected
      by_cases same : other = run
      · subst same
        have firstNow : FirstValidated early other index :=
          ⟨validated, fun earlier below own => first.2 earlier below (validated_append own)⟩
        rw [select_held reflects selects known firstNow held] at pair
        injection pair with active
        rcases held with ⟨entry, stored, rest⟩
        refine ⟨entry, ?_, rest⟩
        have own : entry.sandboxId = drawn.1 := Table.find_key stored
        rw [active, find_discard_others, stored, Option.map_some, discard_kept own]
      · have idle : ∀ spot, ¬ Validated early other spot :=
          fun _ own => quiet (.selection same (validated_append own))
        rw [select_idle reflects selects idle] at pair
        injection pair with active
        rw [Held, active]
        exact held

theorem held_from {early late : List (Event Args)} {state after : State Args} {run index : Nat}
    {drawn : String × Draft Args} (reflects : Reflects early state)
    (ran : replayFrom state late = some after) (known : draftAt early run index = some drawn)
    (validated : Validated early run index)
    (first : FirstValidated (early ++ late) run index)
    (quiet : ∀ event ∈ late, ¬ Disturbs (early ++ late) run index event)
    (held : Held state drawn) : Held after drawn := by
  induction late generalizing early state with
  | nil =>
      have same : state = after := by simpa [replayFrom] using ran
      rw [← same]
      exact held
  | cons event rest ih =>
      have stepped := replay_from_cons ran
      rcases stepped with ⟨next, stepped, later⟩
      have kept := held_step reflects stepped known validated first
        (quiet event (by simp)) held
      rw [List.append_cons] at first quiet
      exact ih (reflects_step reflects stepped) later (draft_at_concat known event)
        (validated_append validated) first
        (fun other member => quiet other (List.mem_cons_of_mem _ member)) kept

/-- The first validated draft of a run is held as long as nothing disturbs it. -/
theorem quiet_held {history : List (Event Args)} {state : State Args} {run index : Nat}
    {drawn : String × Draft Args} (reached : replay history = some state)
    (known : draftAt history run index = some drawn)
    (first : FirstValidated history run index) (quiet : Quiet history run index) :
    Held state drawn := by
  rcases quiet with ⟨early, verdict, late, shape, quiet⟩
  have whole := replay_reflects reached
  have back : Event.finish run index verdict ∈ history := by
    rw [shape]
    simp
  have success := verdict_valid whole back first.1
  subst shape
  have split := replay_split reached
  rcases split with ⟨between, before, rest⟩
  have stepped := replay_from_cons rest
  rcases stepped with ⟨next, stepped, later⟩
  have reflects := replay_reflects before
  have inverted := finish_cases stepped
  rcases inverted with ⟨slot, finishes⟩
  have drawnHere := slot_drawn reflects finishes.waiting
  have same : slot.drawn = drawn := by
    have long := draft_at_append drawnHere (.finish run index verdict :: late)
    rw [known, Option.some.injEq] at long
    exact long.symm
  have validated : Validated (early ++ [.finish run index verdict]) run index := by
    cases verdict with
    | valid stateDiffHash => exact ⟨stateDiffHash, by simp⟩
    | invalid error => cases success
  rw [List.append_cons] at first quiet
  apply held_from (reflects_step reflects stepped) later _ validated first quiet
  · rw [← same]
    exact held_finish finishes success
  · rw [← same]
    exact draft_at_concat drawnHere _

/-- A lost entry stays lost: its draft does not come back again. -/
theorem lost_step {early late : List (Event Args)} {state after : State Args} {run index : Nat}
    {drawn : String × Draft Args} {event : Event Args} {verdict : Verdict}
    (reflects : Reflects early state) (distinct : DistinctActions (early ++ late))
    (ran : step state event = some after) (known : draftAt early run index = some drawn)
    (back : Event.finish run index verdict ∈ early) (lost : ¬ Held state drawn) :
    ¬ Held after drawn := by
  rintro ⟨entry, stored, valid, own⟩
  apply lost
  cases event with
  | start drafts =>
      rw [step, Option.some.injEq] at ran
      subst ran
      exact ⟨entry, stored, valid, own⟩
  | finish other place told =>
      have inverted := finish_cases ran
      rcases inverted with ⟨slot, finishes⟩
      have theirs := slot_drawn reflects finishes.waiting
      rw [finishes.active, Table.find_put] at stored
      split at stored
      · rw [Option.some.injEq] at stored
        subst stored
        have same := distinct run index drawn other place slot.drawn (draft_at_append known late)
          (draft_at_append theirs late) own.symm
        rw [same.1, same.2] at back
        exact absurd ran (not_back_again reflects back)
      · exact ⟨entry, stored, valid, own⟩
  | select other =>
      have selected := step_select ran
      rcases selected with ⟨winner, selected⟩
      have inverted := select_cases selected
      rcases inverted with ⟨results, selects⟩
      have pair := selects.selected
      rcases select_winner_cases state.active results with kept | ⟨keepId, _, _, _, discarded⟩
      · rw [kept] at pair
        injection pair with active
        rw [active] at stored
        exact ⟨entry, stored, valid, own⟩
      · rw [discarded] at pair
        injection pair with active
        rw [active, find_discard_others, Option.map_eq_some_iff] at stored
        rcases stored with ⟨before, there, changed⟩
        subst changed
        exact ⟨before, there, discard_valid valid, (discard_action keepId before).symm.trans own⟩

theorem lost_from {early late : List (Event Args)} {state after : State Args} {run index : Nat}
    {drawn : String × Draft Args} {verdict : Verdict} (reflects : Reflects early state)
    (distinct : DistinctActions (early ++ late)) (ran : replayFrom state late = some after)
    (known : draftAt early run index = some drawn)
    (back : Event.finish run index verdict ∈ early) (lost : ¬ Held state drawn) :
    ¬ Held after drawn := by
  induction late generalizing early state with
  | nil =>
      have same : state = after := by simpa [replayFrom] using ran
      rw [← same]
      exact lost
  | cons event rest ih =>
      have stepped := replay_from_cons ran
      rcases stepped with ⟨next, stepped, later⟩
      have still := lost_step reflects distinct stepped known back lost
      rw [List.append_cons] at distinct
      exact ih (reflects_step reflects stepped) distinct later (draft_at_concat known event)
        (List.mem_append_left _ back) still

theorem validated_when_selected {early late : List (Event Args)} {state after final : State Args}
    {run index : Nat} {winner : Option (String × ActionPayload Args)}
    {results : List DraftResult} (reflects : Reflects early state)
    (selects : Selects state run after winner results)
    (whole : Reflects (early ++ late) final) (validated : Validated (early ++ late) run index) :
    Validated early run index := by
  rcases validated with ⟨stateDiffHash, member⟩
  have back := whole.finished run index (.valid stateDiffHash) member
  rcases back with ⟨finalSlot, finalThere, _⟩
  have finalDrawn := slot_drawn whole finalThere
  have inRun : ∃ slot, slotAt state run index = some slot := by
    -- the run had started, so its drafts were known before the later events
    have known : run < (started early).length := by
      rw [← reflects.count]
      exact selects.known
    have sameDrafts : draftAt (early ++ late) run index = draftAt early run index := by
      rw [draftAt, draftAt, started, List.filterMap_append]
      exact congrArg (fun drafts => Option.bind drafts _) (List.getElem?_append_left known)
    rw [sameDrafts, ← reflects.drafts, Option.map_eq_some_iff] at finalDrawn
    rcases finalDrawn with ⟨slot, there, _⟩
    exact ⟨slot, there⟩
  rcases inRun with ⟨slot, there⟩
  cases done : slot.result with
  | none => exact absurd done (selects.complete index slot there)
  | some result =>
      have cause := reflects.results run index slot result there done
      rcases cause with ⟨verdict, told, _⟩
      have success := verdict_valid whole (List.mem_append_left late told)
        ⟨stateDiffHash, member⟩
      cases verdict with
      | valid hash => exact ⟨hash, told⟩
      | invalid error => cases success

theorem first_validated_of_validated {history : List (Event Args)} {run index : Nat}
    (validated : Validated history run index) : ∃ first, FirstValidated history run first := by
  classical
  have some : ∃ place, Validated history run place := ⟨index, validated⟩
  exact ⟨Nat.find some, Nat.find_spec some, fun earlier below => Nat.find_min some below⟩

theorem validated_drawn {history : List (Event Args)} {state : State Args} {run index : Nat}
    (reflects : Reflects history state) (validated : Validated history run index) :
    ∃ drawn, draftAt history run index = some drawn := by
  rcases validated with ⟨stateDiffHash, member⟩
  have back := reflects.finished run index (.valid stateDiffHash) member
  rcases back with ⟨slot, there, _⟩
  exact ⟨slot.drawn, slot_drawn reflects there⟩

theorem lost_by_disturbance {early late : List (Event Args)} {state after final : State Args}
    {run index : Nat} {drawn : String × Draft Args} {event : Event Args} {verdict : Verdict}
    (reached : replay early = some state) (whole : Reflects (early ++ event :: late) final)
    (distinct : DistinctActions (early ++ event :: late))
    (undisturbed : ∀ other, event = .select other → Undisturbed early other)
    (ran : step state event = some after) (known : draftAt early run index = some drawn)
    (back : Event.finish run index verdict ∈ early)
    (disturbs : Disturbs (early ++ event :: late) run index event) : ¬ Held after drawn := by
  have reflects := replay_reflects reached
  have knownFinal := draft_at_append known (event :: late)
  cases disturbs with
  | @sameSandbox other place sandboxId draft own told theirs ours =>
      have inverted := finish_cases ran
      rcases inverted with ⟨slot, finishes⟩
      have drawnSlot := draft_at_append (slot_drawn reflects finishes.waiting)
        (.finish other place told :: late)
      have sameName : slot.sandboxId = drawn.1 := by
        rw [theirs, Option.some.injEq] at drawnSlot
        rw [knownFinal, Option.some.injEq] at ours
        rw [ours]
        exact (congrArg Prod.fst drawnSlot).symm
      rintro ⟨entry, stored, valid, ownAction⟩
      have written : after.active.find? drawn.1 =
          some (draftEntry slot.sandboxId slot.draft told) := by
        rw [finishes.active, Table.find_put]
        exact if_pos sameName
      rw [written, Option.some.injEq] at stored
      subst stored
      have same := distinct run index drawn other place slot.drawn knownFinal drawnSlot
        ownAction.symm
      rw [same.1, same.2] at back
      exact not_back_again reflects back ran
  | @selection other place apart validated =>
      have selected := step_select ran
      rcases selected with ⟨winner, selected⟩
      have inverted := select_cases selected
      rcases inverted with ⟨results, selects⟩
      have now := validated_when_selected reflects selects whole validated
      have firstThere := first_validated_of_validated now
      rcases firstThere with ⟨spot, first⟩
      have theirs := validated_drawn reflects first.1
      rcases theirs with ⟨theirDrawn, theirKnown⟩
      have theirHeld := quiet_held reached theirKnown first
        (undisturbed other rfl spot first)
      have pair := selects.selected
      rw [select_held reflects selects theirKnown first theirHeld] at pair
      injection pair with active
      rintro ⟨entry, stored, valid, ownAction⟩
      rw [active, find_discard_others, Option.map_eq_some_iff] at stored
      rcases stored with ⟨before, there, changed⟩
      subst changed
      by_cases sameName : drawn.1 = theirDrawn.1
      · -- the entry is the winner's own, and its action is another one
        rcases theirHeld with ⟨theirEntry, theirStored, _, theirAction⟩
        rw [← sameName, there, Option.some.injEq] at theirStored
        subst theirStored
        rw [discard_action, theirAction] at ownAction
        have same := distinct run index drawn other spot theirDrawn knownFinal
          (draft_at_append theirKnown _) ownAction.symm
        exact apart same.1.symm
      · have named : before.sandboxId ≠ theirDrawn.1 := by
          rw [Table.find_key there]
          exact sameName
        rw [discard_other named] at valid
        cases valid

/-- Where every earlier selection was undisturbed, a disturbed draft has lost its entry. -/
theorem unquiet_lost {history : List (Event Args)} {state : State Args} {run index : Nat}
    {drawn : String × Draft Args} (reached : replay history = some state)
    (distinct : DistinctActions history)
    (undisturbed : ∀ before other after, history = before ++ .select other :: after →
      Undisturbed before other)
    (known : draftAt history run index = some drawn) (validated : Validated history run index)
    (unquiet : ¬ Quiet history run index) : ¬ Held state drawn := by
  have whole := replay_reflects reached
  rcases validated with ⟨stateDiffHash, member⟩
  have shape := List.append_of_mem member
  rcases shape with ⟨early, late, shape⟩
  have disturbed : ∃ event ∈ late, Disturbs history run index event := by
    by_contra none
    apply unquiet
    refine ⟨early, .valid stateDiffHash, late, shape, ?_⟩
    intro event eventMember disturbs
    exact none ⟨event, eventMember, disturbs⟩
  rcases disturbed with ⟨event, eventMember, disturbs⟩
  have between := List.append_of_mem eventMember
  rcases between with ⟨middle, last, lateShape⟩
  let before := early ++ .finish run index (.valid stateDiffHash) :: middle
  have cut : history = before ++ event :: last := by
    rw [shape, lateShape]
    simp [before]
  rw [cut] at reached
  have split := replay_split reached
  rcases split with ⟨reachedState, beforeReached, rest⟩
  have stepped := replay_from_cons rest
  rcases stepped with ⟨next, stepped, later⟩
  have reflects := replay_reflects beforeReached
  have back : Event.finish run index (.valid stateDiffHash) ∈ before := by simp [before]
  have there := validated_drawn reflects ⟨stateDiffHash, back⟩
  rcases there with ⟨drawnHere, knownHere⟩
  have same : drawnHere = drawn := by
    have long := draft_at_append knownHere (event :: last)
    rw [← cut, known, Option.some.injEq] at long
    exact long.symm
  subst same
  rw [cut] at whole distinct disturbs
  have gone := lost_by_disturbance beforeReached whole distinct
    (fun other equal => undisturbed before other last (by rw [cut, equal])) stepped knownHere
    back disturbs
  rw [List.append_cons] at distinct
  exact lost_from (reflects_step reflects stepped) distinct later (draft_at_concat knownHere _)
    (List.mem_append_left _ back) gone

end Entries

section Selections

/-- An undisturbed selection is exact, whatever else happened in the history. -/
theorem selects_exactly_of_undisturbed {history : List (Event Args)} {run : Nat}
    (undisturbed : Undisturbed history run) : SelectsExactly history run := by
  intro state after winner reached ran
  have reflects := replay_reflects reached
  have inverted := select_cases ran
  rcases inverted with ⟨results, selects⟩
  have pair := selects.selected
  have choose : ∀ index drawn, FirstValidated history run index →
      draftAt history run index = some drawn → winner = some (drawn.1, drawn.2.action) := by
    intro index drawn first known
    have held := quiet_held reached known first (undisturbed index first)
    rw [select_held reflects selects known first held] at pair
    injection pair
  constructor
  · intro index drawn first known
    rw [choose index drawn first known]
    rfl
  · rw [Option.map_eq_none_iff]
    constructor
    · intro none index validated
      have firstThere := first_validated_of_validated validated
      rcases firstThere with ⟨place, first⟩
      have theirs := validated_drawn reflects first.1
      rcases theirs with ⟨drawn, known⟩
      rw [choose place drawn first known] at none
      cases none
    · intro idle
      rw [select_idle reflects selects idle] at pair
      injection pair

theorem held_of_exact {history : List (Event Args)} {state after : State Args} {run index : Nat}
    {winner : Option (String × ActionPayload Args)} {drawn : String × Draft Args}
    (reflects : Reflects history state) (distinct : DistinctActions history)
    (ran : selectRun state run = some (after, winner))
    (own : WinnerExact history run (winner.map Prod.snd))
    (known : draftAt history run index = some drawn)
    (first : FirstValidated history run index) : Held state drawn := by
  have inverted := select_cases ran
  rcases inverted with ⟨results, selects⟩
  have pair := selects.selected
  have chosen := own.first index drawn first known
  rcases select_winner_cases state.active results with kept | ⟨keepId, entry, stored, valid, won⟩
  · rw [kept] at pair
    injection pair with active nobody
    rw [nobody] at chosen
    cases chosen
  · rw [won] at pair
    injection pair with active somebody
    rw [somebody, Option.map_some, Option.some.injEq] at chosen
    have source := reflects.entries keepId entry stored
    rcases source with ⟨other, place, draft, theirs, action⟩
    have same := distinct run index drawn other place (keepId, draft) known theirs
      (chosen.symm.trans action)
    rw [same.1, same.2, theirs, Option.some.injEq] at known
    subst known
    exact ⟨entry, stored, valid, action⟩

theorem selections_undisturbed {history : List (Event Args)} {state : State Args}
    (reached : replay history = some state) (distinct : DistinctActions history)
    (exactly : ∀ before run after, history = before ++ .select run :: after →
      SelectsExactly before run) :
    ∀ before run after, history = before ++ .select run :: after → Undisturbed before run := by
  have bySize : ∀ size before run after, before.length = size →
      history = before ++ .select run :: after → Undisturbed before run := by
    intro size
    -- the selections before this one are undisturbed, so what disturbs this one took the entry
    induction size using Nat.strongRecOn with
    | ind size ih =>
        intro before run after length cut index first
        by_contra unquiet
        have split := replay_split (cut ▸ reached)
        rcases split with ⟨between, beforeReached, rest⟩
        have stepped := replay_from_cons rest
        rcases stepped with ⟨next, stepped, _⟩
        have selected := step_select stepped
        rcases selected with ⟨winner, selected⟩
        have reflects := replay_reflects beforeReached
        have theirs := validated_drawn reflects first.1
        rcases theirs with ⟨drawn, known⟩
        have distinctBefore : DistinctActions before := by
          intro one place drawnOne two spot drawnTwo knownOne knownTwo same
          rw [cut] at distinct
          exact distinct one place drawnOne two spot drawnTwo (draft_at_append knownOne _)
            (draft_at_append knownTwo _) same
        have earlier : ∀ prior other later, before = prior ++ .select other :: later →
            Undisturbed prior other := by
          intro prior other later shape
          have shorter : prior.length < size := by
            rw [← length, shape]
            simp
          apply ih prior.length shorter prior other (later ++ .select run :: after) rfl
          rw [cut, shape]
          simp
        have held := held_of_exact reflects distinctBefore selected
          (exactly before run after cut between next winner beforeReached selected) known first
        exact unquiet_lost beforeReached distinctBefore earlier known first.1 unquiet held
  intro before run after cut
  exact bySize before.length before run after rfl cut

/-- In every history of runs, a selection is exact if it is undisturbed; and where the
proposed actions are pairwise different, the selections of the history are all exact only
if they are all undisturbed. -/
theorem winners_exact_iff {history : List (Event Args)} {state : State Args}
    (reached : replay history = some state) :
    (∀ before run after, history = before ++ .select run :: after →
      Undisturbed before run → SelectsExactly before run) ∧
    (DistinctActions history →
      ((∀ before run after, history = before ++ .select run :: after →
          SelectsExactly before run) ↔
        ∀ before run after, history = before ++ .select run :: after →
          Undisturbed before run)) := by
  constructor
  · intro before run after _ undisturbed
    exact selects_exactly_of_undisturbed undisturbed
  · intro distinct
    constructor
    · exact selections_undisturbed reached distinct
    · intro undisturbed before run after cut
      exact selects_exactly_of_undisturbed (undisturbed before run after cut)

def sequentialRuns : List (Event String) :=
  [.start [("sb-0a1b2c", ⟨"WRITE_FILE", "a.txt"⟩)], .start [("sb-3d4e5f", ⟨"WRITE_FILE", "b.txt"⟩)],
    .finish 0 0 (.valid "11111111"), .select 0, .finish 1 0 (.valid "22222222")]

theorem winners_exact_sequential : SelectsExactly sequentialRuns 1 := by
  have reached : (replay (sequentialRuns ++ [.select 1])).isSome = true := by decide
  rw [Option.isSome_iff_exists] at reached
  rcases reached with ⟨state, reached⟩
  apply (winners_exact_iff reached).1 sequentialRuns 1 [] rfl
  intro index first
  rcases first.1 with ⟨stateDiffHash, member⟩
  have only : index = 0 := by
    simp [sequentialRuns] at member
    exact member.1
  subst only
  exact ⟨sequentialRuns.take 4, .valid "22222222", [], rfl, by simp⟩

def overlappingRuns : List (Event String) :=
  [.start [("sb-0a1b2c", ⟨"WRITE_FILE", "a.txt"⟩)], .start [("sb-3d4e5f", ⟨"WRITE_FILE", "b.txt"⟩)],
    .finish 0 0 (.valid "11111111"), .finish 1 0 (.valid "22222222"), .select 0]

/-- The second run gets no winner although its only draft is valid. -/
theorem overlapping_runs_lose : ¬ SelectsExactly overlappingRuns 1 := by
  intro exactly
  have refused : ∃ state after, replay overlappingRuns = some state ∧
      selectRun state 1 = some (after, none) :=
    ⟨_, _, rfl, rfl⟩
  rcases refused with ⟨state, after, reached, ran⟩
  have winner := exactly state after none reached ran
  exact winner.none_iff.mp rfl 0 ⟨"22222222", by simp [overlappingRuns]⟩

end Selections

end SagaMind.Speculative

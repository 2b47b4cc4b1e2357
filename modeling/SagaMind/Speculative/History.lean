import SagaMind.Speculative.Orchestrator

/-!
# Histories of the speculative orchestrator

What a history of events says about its runs (the drafts with their sandbox ids, and
which validations succeeded), and that the state reached by the events agrees with it.
-/

namespace SagaMind.Speculative

open KeyedTable

set_option autoImplicit false

variable {Args : Type}

section Histories

def startedBy : Event Args → Option (List (String × Draft Args))
  | .start drafts => some drafts
  | .finish _ _ _ => none
  | .select _ => none

def started (history : List (Event Args)) : List (List (String × Draft Args)) :=
  history.filterMap startedBy

def draftAt (history : List (Event Args)) (run index : Nat) : Option (String × Draft Args) :=
  (started history)[run]?.bind fun drafts => drafts[index]?

def Validated (history : List (Event Args)) (run index : Nat) : Prop :=
  ∃ stateDiffHash, Event.finish run index (.valid stateDiffHash) ∈ history

def FirstValidated (history : List (Event Args)) (run index : Nat) : Prop :=
  Validated history run index ∧ ∀ earlier < index, ¬ Validated history run earlier

end Histories

section Slots

def slotAt (state : State Args) (run index : Nat) : Option (Slot Args) :=
  state.runs[run]?.bind fun slots => slots[index]?

def Slot.drawn (slot : Slot Args) : String × Draft Args := (slot.sandboxId, slot.draft)

def Slot.settle (slot : Slot Args) (verdict : Verdict) : Slot Args :=
  { slot with result := some (draftResult slot.sandboxId slot.draft verdict) }

theorem slot_at_start (state : State Args) (drafts : List (String × Draft Args))
    (run index : Nat) :
    slotAt (startRun state drafts) run index =
      if run = state.runs.length then drafts[index]?.map slotOf else slotAt state run index := by
  rw [slotAt, startRun, slotAt]
  by_cases fresh : run = state.runs.length
  · subst fresh
    simp
  · rw [if_neg fresh]
    by_cases old : run < state.runs.length
    · rw [List.getElem?_append_left old]
    · have past : state.runs.length < run := by omega
      have beyond : state.runs.length + 1 ≤ run := by omega
      rw [List.getElem?_eq_none (by simpa using beyond), List.getElem?_eq_none (by omega)]

/-- What `finishDraft` does, in terms of the slots. -/
structure Finishes (state : State Args) (run index : Nat) (verdict : Verdict)
    (after : State Args) (slot : Slot Args) : Prop where
  waiting : slotAt state run index = some slot
  pending : slot.result = none
  active : after.active = state.active.put (draftEntry slot.sandboxId slot.draft verdict)
  count : after.runs.length = state.runs.length
  settled : slotAt after run index = some (slot.settle verdict)
  others : ∀ other place, ¬ (other = run ∧ place = index) →
    slotAt after other place = slotAt state other place

theorem finish_cases {state after : State Args} {run index : Nat} {verdict : Verdict}
    (ran : finishDraft state run index verdict = some after) :
    ∃ slot, Finishes state run index verdict after slot := by
  rw [finishDraft] at ran
  cases inRuns : state.runs[run]? with
  | none => simp [inRuns] at ran
  | some slots =>
      cases inSlots : slots[index]? with
      | none => simp [inRuns, inSlots] at ran
      | some slot =>
          cases done : slot.result with
          | some result => simp [inRuns, inSlots, done] at ran
          | none =>
              simp [inRuns, inSlots, done] at ran
              subst ran
              have runBound : run < state.runs.length := by
                exact (List.getElem?_eq_some_iff.mp inRuns).1
              have indexBound : index < slots.length := by
                exact (List.getElem?_eq_some_iff.mp inSlots).1
              refine ⟨slot, ⟨?_, done, rfl, by simp, ?_, ?_⟩⟩
              · simp [slotAt, inRuns, inSlots]
              · simp [slotAt, runBound, indexBound, Slot.settle]
              · intro other place apart
                rw [slotAt, slotAt]
                by_cases sameRun : other = run
                · subst sameRun
                  have elsewhere : index ≠ place := fun equal => apart ⟨rfl, equal.symm⟩
                  have value : state.runs[other] = slots :=
                    (List.getElem?_eq_some_iff.mp inRuns).2
                  simp [runBound, value, List.getElem?_set_ne elsewhere]
                · have elsewhere : run ≠ other := fun equal => sameRun equal.symm
                  simp [List.getElem?_set_ne elsewhere]

theorem gathered_get {slots : List (Slot Args)} {results : List DraftResult}
    (all : gathered slots = some results) (index : Nat) :
    results[index]? = slots[index]?.bind Slot.result := by
  induction slots generalizing results index with
  | nil =>
      rw [gathered, Option.some.injEq] at all
      subst all
      simp
  | cons slot rest ih =>
      cases own : slot.result with
      | none => simp [gathered, own] at all
      | some result =>
          cases later : gathered rest with
          | none => simp [gathered, own, later] at all
          | some tail =>
              simp [gathered, own, later] at all
              subst all
              cases index with
              | zero => simp [own]
              | succ index => simpa using ih later index

theorem gathered_length {slots : List (Slot Args)} {results : List DraftResult}
    (all : gathered slots = some results) : results.length = slots.length := by
  induction slots generalizing results with
  | nil =>
      rw [gathered, Option.some.injEq] at all
      subst all
      rfl
  | cons slot rest ih =>
      cases own : slot.result with
      | none => simp [gathered, own] at all
      | some result =>
          cases later : gathered rest with
          | none => simp [gathered, own, later] at all
          | some tail =>
              simp [gathered, own, later] at all
              subst all
              simp [ih later]

/-- What `selectRun` does, in terms of the slots. -/
structure Selects (state : State Args) (run : Nat) (after : State Args)
    (winner : Option (String × ActionPayload Args)) (results : List DraftResult) : Prop where
  known : run < state.runs.length
  get : ∀ index : Nat, results[index]? = (slotAt state run index).bind Slot.result
  complete : ∀ index slot, slotAt state run index = some slot → slot.result ≠ none
  runs : after.runs = state.runs
  selected : (after.active, winner) = selectWinner state.active results

theorem select_cases {state after : State Args} {run : Nat}
    {winner : Option (String × ActionPayload Args)}
    (ran : selectRun state run = some (after, winner)) :
    ∃ results, Selects state run after winner results := by
  rw [selectRun] at ran
  cases inRuns : state.runs[run]? with
  | none => simp [inRuns] at ran
  | some slots =>
      cases all : gathered slots with
      | none => simp [inRuns, all] at ran
      | some results =>
          simp [inRuns, all] at ran
          have get : ∀ index : Nat,
              results[index]? = (slotAt state run index).bind Slot.result := by
            intro index
            rw [gathered_get all index, slotAt, inRuns]
            rfl
          refine ⟨results, ⟨(List.getElem?_eq_some_iff.mp inRuns).1, get, ?_, ?_, ?_⟩⟩
          · intro index slot there unfinished
            have short : results[index]? = none := by
              rw [get, there]
              exact unfinished
            have within : index < slots.length := by
              rw [slotAt, inRuns] at there
              exact (List.getElem?_eq_some_iff.mp there).1
            rw [List.getElem?_eq_none_iff, gathered_length all] at short
            omega
          · rw [← ran.1]
          · rw [← ran.1, ← ran.2]

end Slots

section Reflection

theorem started_concat (history : List (Event Args)) (event : Event Args) :
    started (history ++ [event]) = started history ++ (startedBy event).toList := by
  rw [started, List.filterMap_append, started]
  cases event <;> rfl

/-- A later event does not change the drafts of the runs that have started. -/
theorem draft_at_concat {history : List (Event Args)} {run index : Nat}
    {drawn : String × Draft Args} (known : draftAt history run index = some drawn)
    (event : Event Args) : draftAt (history ++ [event]) run index = some drawn := by
  rw [draftAt, Option.bind_eq_some_iff] at known
  rcases known with ⟨drafts, inRuns, inDrafts⟩
  have bound : run < (started history).length := (List.getElem?_eq_some_iff.mp inRuns).1
  rw [draftAt, started_concat, List.getElem?_append_left bound, inRuns]
  exact inDrafts

theorem draft_at_quiet {event : Event Args} (quiet : startedBy event = none)
    (history : List (Event Args)) (run index : Nat) :
    draftAt (history ++ [event]) run index = draftAt history run index := by
  rw [draftAt, started_concat, quiet, Option.toList_none, List.append_nil, draftAt]

/-- The state is the one that the history describes. -/
structure Reflects (history : List (Event Args)) (state : State Args) : Prop where
  count : state.runs.length = (started history).length
  drafts : ∀ run index, (slotAt state run index).map Slot.drawn = draftAt history run index
  results : ∀ run index slot result, slotAt state run index = some slot →
    slot.result = some result → ∃ verdict, Event.finish run index verdict ∈ history ∧
      result = draftResult slot.sandboxId slot.draft verdict
  finished : ∀ run index verdict, Event.finish run index verdict ∈ history →
    ∃ slot, slotAt state run index = some slot ∧
      slot.result = some (draftResult slot.sandboxId slot.draft verdict)
  entries : ∀ sandboxId entry, state.active.find? sandboxId = some entry →
    ∃ run index draft, draftAt history run index = some (sandboxId, draft) ∧
      entry.action = draft.action

theorem reflects_initial : Reflects ([] : List (Event Args)) initial where
  count := rfl
  drafts _ _ := rfl
  results _ _ _ _ there := by cases there
  finished _ _ _ member := by cases member
  entries _ _ found := by cases found

theorem reflects_start {history : List (Event Args)} {state : State Args}
    (reflects : Reflects history state) (drafts : List (String × Draft Args)) :
    Reflects (history ++ [.start drafts]) (startRun state drafts) where
  count := by
    rw [started_concat]
    simp [startRun, startedBy, reflects.count]
  drafts := by
    intro run index
    rw [slot_at_start]
    by_cases fresh : run = state.runs.length
    · have drawn : Slot.drawn ∘ slotOf = (id : String × Draft Args → String × Draft Args) := rfl
      rw [if_pos fresh, draftAt, started_concat, fresh, reflects.count, Option.map_map, drawn]
      simp [startedBy]
    · rw [if_neg fresh, reflects.drafts, draftAt, draftAt, started_concat]
      by_cases old : run < (started history).length
      · rw [List.getElem?_append_left old]
      · have count := reflects.count
        have short : (started history ++ (startedBy (Event.start drafts)).toList).length ≤ run := by
          simp only [startedBy, Option.toList_some, List.length_append, List.length_singleton]
          omega
        rw [List.getElem?_eq_none (by omega), List.getElem?_eq_none short]
  results := by
    intro run index slot result there done
    rw [slot_at_start] at there
    split at there
    · rw [Option.map_eq_some_iff] at there
      rcases there with ⟨drawn, _, made⟩
      subst made
      cases done
    · have earlier := reflects.results run index slot result there done
      rcases earlier with ⟨verdict, member, same⟩
      exact ⟨verdict, List.mem_append_left _ member, same⟩
  finished := by
    intro run index verdict member
    have old : Event.finish run index verdict ∈ history := by simpa using member
    have earlier := reflects.finished run index verdict old
    rcases earlier with ⟨slot, there, done⟩
    have known : run ≠ state.runs.length := by
      intro fresh
      rw [slotAt, fresh] at there
      simp at there
    refine ⟨slot, ?_, done⟩
    rw [slot_at_start, if_neg known]
    exact there
  entries := by
    intro sandboxId entry found
    have earlier := reflects.entries sandboxId entry found
    rcases earlier with ⟨run, index, draft, known, same⟩
    exact ⟨run, index, draft, draft_at_concat known _, same⟩

theorem reflects_finish {history : List (Event Args)} {state after : State Args}
    {run index : Nat} {verdict : Verdict} (reflects : Reflects history state)
    (ran : finishDraft state run index verdict = some after) :
    Reflects (history ++ [.finish run index verdict]) after := by
  have inverted := finish_cases ran
  rcases inverted with ⟨slot, finishes⟩
  have drawn : draftAt history run index = some slot.drawn := by
    rw [← reflects.drafts, finishes.waiting]
    rfl
  constructor
  · rw [finishes.count, reflects.count, started_concat]
    simp [startedBy]
  · intro other place
    rw [draft_at_quiet rfl, ← reflects.drafts]
    by_cases same : other = run ∧ place = index
    · rw [same.1, same.2, finishes.settled, finishes.waiting]
      rfl
    · rw [finishes.others other place same]
  · intro other place found result there done
    by_cases same : other = run ∧ place = index
    · rw [same.1, same.2, finishes.settled, Option.some.injEq] at there
      subst there
      refine ⟨verdict, ?_, ?_⟩
      · rw [same.1, same.2]
        simp
      · rw [Slot.settle, Option.some.injEq] at done
        exact done.symm
    · rw [finishes.others other place same] at there
      have earlier := reflects.results other place found result there done
      rcases earlier with ⟨old, member, value⟩
      exact ⟨old, List.mem_append_left _ member, value⟩
  · intro other place told member
    rw [List.mem_append, List.mem_singleton] at member
    rcases member with old | new
    · have earlier := reflects.finished other place told old
      rcases earlier with ⟨found, there, done⟩
      have apart : ¬ (other = run ∧ place = index) := by
        rintro ⟨rfl, rfl⟩
        rw [finishes.waiting, Option.some.injEq] at there
        subst there
        rw [finishes.pending] at done
        cases done
      exact ⟨found, (finishes.others other place apart).trans there, done⟩
    · injection new with sameRun sameIndex sameVerdict
      subst sameRun sameIndex sameVerdict
      exact ⟨slot.settle told, finishes.settled, rfl⟩
  · intro sandboxId entry found
    rw [finishes.active, Table.find_put] at found
    split at found
    · rename_i same
      rw [Option.some.injEq] at found
      subst found
      refine ⟨run, index, slot.draft, ?_, rfl⟩
      rw [draft_at_quiet rfl, drawn]
      exact congrArg (fun name => some (name, slot.draft)) same
    · have earlier := reflects.entries sandboxId entry found
      rcases earlier with ⟨other, place, draft, known, value⟩
      exact ⟨other, place, draft, draft_at_concat known _, value⟩

theorem reflects_select {history : List (Event Args)} {state after : State Args} {run : Nat}
    {winner : Option (String × ActionPayload Args)} (reflects : Reflects history state)
    (ran : selectRun state run = some (after, winner)) :
    Reflects (history ++ [.select run]) after := by
  have inverted := select_cases ran
  rcases inverted with ⟨taken, selects⟩
  have slots : ∀ other place, slotAt after other place = slotAt state other place := by
    intro other place
    rw [slotAt, slotAt, selects.runs]
  constructor
  · rw [selects.runs, reflects.count, started_concat]
    simp [startedBy]
  · intro other place
    rw [draft_at_quiet rfl, slots, reflects.drafts]
  · intro other place found result there done
    rw [slots] at there
    have earlier := reflects.results other place found result there done
    rcases earlier with ⟨verdict, member, value⟩
    exact ⟨verdict, List.mem_append_left _ member, value⟩
  · intro other place verdict member
    rw [slots]
    exact reflects.finished other place verdict (by simpa using member)
  · intro sandboxId entry found
    have old : ∃ before, state.active.find? sandboxId = some before ∧
        entry.action = before.action := by
      have pair := selects.selected
      rcases select_winner_cases state.active taken with kept | ⟨keepId, _, _, _, discarded⟩
      · rw [kept] at pair
        injection pair with active
        exact ⟨entry, active ▸ found, rfl⟩
      · rw [discarded] at pair
        injection pair with active
        rw [active, find_discard_others, Option.map_eq_some_iff] at found
        rcases found with ⟨before, there, changed⟩
        exact ⟨before, there, changed ▸ discard_action keepId before⟩
    rcases old with ⟨before, there, same⟩
    have earlier := reflects.entries sandboxId before there
    rcases earlier with ⟨other, place, draft, known, value⟩
    exact ⟨other, place, draft, draft_at_concat known _, same.trans value⟩

theorem step_select {state after : State Args} {run : Nat}
    (ran : step state (.select run) = some after) :
    ∃ winner, selectRun state run = some (after, winner) := by
  rw [step, Option.map_eq_some_iff] at ran
  rcases ran with ⟨⟨reached, winner⟩, selected, same⟩
  subst same
  exact ⟨winner, selected⟩

theorem reflects_step {history : List (Event Args)} {state after : State Args}
    {event : Event Args} (reflects : Reflects history state)
    (ran : step state event = some after) : Reflects (history ++ [event]) after := by
  cases event with
  | start drafts =>
      rw [step, Option.some.injEq] at ran
      subst ran
      exact reflects_start reflects drafts
  | finish run index verdict => exact reflects_finish reflects ran
  | select run =>
      have selected := step_select ran
      rcases selected with ⟨winner, selected⟩
      exact reflects_select reflects selected

theorem replay_from_append (state : State Args) (early late : List (Event Args)) :
    replayFrom state (early ++ late) =
      (replayFrom state early).bind fun reached => replayFrom reached late := by
  rw [replayFrom, List.foldlM_append]
  rfl

theorem replay_split {early late : List (Event Args)} {state : State Args}
    (reached : replay (early ++ late) = some state) :
    ∃ between, replay early = some between ∧ replayFrom between late = some state := by
  rw [replay, replay_from_append, Option.bind_eq_some_iff] at reached
  exact reached

theorem replay_from_cons {state after : State Args} {event : Event Args}
    {rest : List (Event Args)} (ran : replayFrom state (event :: rest) = some after) :
    ∃ next, step state event = some next ∧ replayFrom next rest = some after := by
  rw [replayFrom, List.foldlM_cons] at ran
  exact Option.bind_eq_some_iff.mp ran

theorem reflects_from {history late : List (Event Args)} {state after : State Args}
    (reflects : Reflects history state) (ran : replayFrom state late = some after) :
    Reflects (history ++ late) after := by
  induction late generalizing history state with
  | nil =>
      have same : state = after := by simpa [replayFrom] using ran
      rw [List.append_nil, ← same]
      exact reflects
  | cons event rest ih =>
      have first := replay_from_cons ran
      rcases first with ⟨next, stepped, later⟩
      have reached := ih (reflects_step reflects stepped) later
      simpa using reached

theorem replay_reflects {history : List (Event Args)} {state : State Args}
    (reached : replay history = some state) : Reflects history state := by
  have whole := reflects_from reflects_initial reached
  simpa using whole

theorem draft_at_append {early : List (Event Args)} {run index : Nat}
    {drawn : String × Draft Args} (known : draftAt early run index = some drawn)
    (late : List (Event Args)) : draftAt (early ++ late) run index = some drawn := by
  induction late generalizing early with
  | nil => rwa [List.append_nil]
  | cons event rest ih =>
      rw [List.append_cons]
      exact ih (draft_at_concat known event)

theorem slot_drawn {history : List (Event Args)} {state : State Args}
    (reflects : Reflects history state) {run index : Nat} {slot : Slot Args}
    (there : slotAt state run index = some slot) :
    draftAt history run index = some slot.drawn := by
  rw [← reflects.drafts, there]
  rfl

theorem validated_append {early late : List (Event Args)} {run index : Nat}
    (validated : Validated early run index) : Validated (early ++ late) run index := by
  rcases validated with ⟨stateDiffHash, member⟩
  exact ⟨stateDiffHash, List.mem_append_left _ member⟩

theorem verdict_valid {history : List (Event Args)} {state : State Args}
    (reflects : Reflects history state) {run index : Nat} {verdict : Verdict}
    (member : Event.finish run index verdict ∈ history)
    (validated : Validated history run index) : verdict.success = true := by
  rcases validated with ⟨stateDiffHash, other⟩
  have one := reflects.finished run index verdict member
  have two := reflects.finished run index (.valid stateDiffHash) other
  rcases one with ⟨slot, there, result⟩
  rcases two with ⟨again, thereAgain, resultAgain⟩
  rw [there, Option.some.injEq] at thereAgain
  subst thereAgain
  rw [result, Option.some.injEq] at resultAgain
  have successes := congrArg DraftResult.success resultAgain
  rw [draft_result_success, draft_result_success] at successes
  exact successes

theorem not_back_again {history : List (Event Args)} {state after : State Args}
    (reflects : Reflects history state) {run index : Nat} {verdict again : Verdict}
    (member : Event.finish run index verdict ∈ history) :
    finishDraft state run index again ≠ some after := by
  intro ran
  have inverted := finish_cases ran
  rcases inverted with ⟨slot, finishes⟩
  have back := reflects.finished run index verdict member
  rcases back with ⟨found, there, done⟩
  rw [finishes.waiting, Option.some.injEq] at there
  subst there
  rw [finishes.pending] at done
  cases done

end Reflection

end SagaMind.Speculative

import Mathlib.Data.List.Nodup
import Mathlib.Data.List.Range
import SagaMind.Foundation.Pool

/-!
# Append-only logs in pools

Every entry of a log has a key and a number. Each call of a pool either leaves
the log alone or appends one entry with a new key and the next number. Then the
log holds the keys in the order of their registrations, its numbers have no gap,
and a later log begins with an earlier one.
-/

namespace AppendLog

open CallProgram

set_option autoImplicit false

variable {Key Entry : Type} [DecidableEq Key]

def enroll (log : List Key) (key : Key) : List Key :=
  if key ∈ log then log else log ++ [key]

def registrations (keys : List Key) : List Key := keys.foldl enroll []

theorem registrations_snoc (keys : List Key) (key : Key) :
    registrations (keys ++ [key]) = enroll (registrations keys) key := by
  simp [registrations]

theorem registrations_nodup (keys : List Key) : (registrations keys).Nodup := by
  induction keys using List.reverseRecOn with
  | nil => exact List.nodup_nil
  | append_singleton keys key ih =>
      rw [registrations_snoc, enroll]
      split
      · exact ih
      · rename_i fresh
        have apart : ∀ old ∈ registrations keys, old ≠ key := by
          intro old member same
          rw [same] at member
          exact fresh member
        rw [List.nodup_append]
        refine ⟨ih, List.nodup_singleton key, ?_⟩
        intro old member new last
        rw [List.mem_singleton.mp last]
        exact apart old member

theorem numbered_snoc {seqOf : Entry → Nat} {log : List Entry} {entry : Entry}
    (numbered : log.map seqOf = List.range' 1 log.length) (next : seqOf entry = log.length + 1) :
    (log ++ [entry]).map seqOf = List.range' 1 (log ++ [entry]).length := by
  rw [List.map_append, numbered, List.length_append, List.length_singleton, List.range'_concat,
    List.map_singleton, next]
  congr 2
  omega

inductive LogStep (keyOf : Entry → Key) (seqOf : Entry → Nat) :
    Option Key → List Entry → List Entry → Prop
  | append {log entry} (fresh : keyOf entry ∉ log.map keyOf)
      (next : seqOf entry = log.length + 1) :
      LogStep keyOf seqOf (some (keyOf entry)) log (log ++ [entry])
  | keep {registered log} (known : ∀ key, registered = some key → key ∈ log.map keyOf) :
      LogStep keyOf seqOf registered log log

structure Dense (keyOf : Entry → Key) (seqOf : Entry → Nat) (keys : List Key)
    (log : List Entry) : Prop where
  order : log.map keyOf = registrations keys
  numbered : log.map seqOf = List.range' 1 log.length

section Steps

variable {keyOf : Entry → Key} {seqOf : Entry → Nat} {registered : Option Key}
  {log grown : List Entry} {keys : List Key}

theorem dense_empty : Dense keyOf seqOf [] [] := ⟨rfl, rfl⟩

theorem dense_step (dense : Dense keyOf seqOf keys log)
    (taken : LogStep keyOf seqOf registered log grown) :
    Dense keyOf seqOf (keys ++ registered.toList) grown := by
  cases taken with
  | append fresh next =>
      rename_i entry
      constructor
      · rw [dense.order] at fresh
        rw [Option.toList_some, registrations_snoc, enroll, if_neg fresh, List.map_append,
          dense.order]
        rfl
      · exact numbered_snoc dense.numbered next
  | keep known =>
      cases registered with
      | none =>
          rw [Option.toList_none, List.append_nil]
          exact dense
      | some key =>
          have old := known key rfl
          rw [dense.order] at old
          constructor
          · rw [Option.toList_some, registrations_snoc, enroll, if_pos old]
            exact dense.order
          · exact dense.numbered

omit [DecidableEq Key] in
theorem step_extends (taken : LogStep keyOf seqOf registered log grown) : log <+: grown := by
  cases taken with
  | append fresh next => exact List.prefix_append ..
  | keep known => exact List.prefix_rfl

end Steps

section Pools

variable {face : Interface} {Err Value Owner Local State : Type}
  {setting : Setting face Err Value Owner Local State} {allowed : face.Call → Local → Prop}
  {keyOf : Entry → Key} {seqOf : Entry → Nat}

/-- A shared state and the notes of the threads stand for a log, and every call
is a step of it. -/
structure Carries (setting : Setting face Err Value Owner Local State)
    (allowed : face.Call → Local → Prop) (keyOf : Entry → Key) (seqOf : Entry → Nat)
    (registers : Event face → Option Key) (stands : State → List Local → List Entry → Prop) :
    Prop where
  spawned : ∀ {shared notes log}, stands shared notes log →
    stands shared (notes ++ [setting.start]) log
  called : ∀ {shared after left right noted owner request reply log},
    stands shared (left ++ noted :: right) log → allowed request noted →
    setting.permits shared (left ++ right) noted request →
    setting.serve owner request shared reply after →
    ∃ grown, stands after (left ++ setting.note request reply noted :: right) grown ∧
      LogStep keyOf seqOf (registers ⟨request, reply⟩) log grown
  crashed : ∀ {shared after notes survivors owner log}, stands shared notes log →
    survivors.Sublist notes → setting.lose owner shared after → stands after survivors log

variable {registers : Event face → Option Key} {stands : State → List Local → List Entry → Prop}

def Continues (keyOf : Entry → Key) (seqOf : Entry → Nat) (registers : Event face → Option Key)
    (stands : State → List Local → List Entry → Prop) (origin : List Entry) (shared : State)
    (trace : List (Event face)) (notes : List Local) : Prop :=
  ∃ log, stands shared notes log ∧ Dense keyOf seqOf (trace.filterMap registers) log ∧
    origin <+: log

theorem continues_invariant (carries : Carries setting allowed keyOf seqOf registers stands)
    (origin : List Entry) :
    setting.Invariant allowed (Continues keyOf seqOf registers stands origin) := by
  constructor
  · intro shared trace notes held
    obtain ⟨log, here, dense, begins⟩ := held
    exact ⟨log, carries.spawned here, dense, begins⟩
  · intro shared after trace left right noted owner request reply held permission permitted served
    obtain ⟨log, here, dense, begins⟩ := held
    obtain ⟨grown, there, taken⟩ := carries.called here permission permitted served
    have later := dense_step dense taken
    refine ⟨grown, there, ?_, begins.trans (step_extends taken)⟩
    rw [List.filterMap_append]
    have last : [Event.mk request reply].filterMap registers =
        (registers ⟨request, reply⟩).toList := by
      cases found : registers ⟨request, reply⟩ with
      | none => simp [found]
      | some key => simp [found]
    rw [last]
    exact later
  · intro shared after trace notes survivors owner held sublist lost
    obtain ⟨log, here, dense, begins⟩ := held
    exact ⟨log, carries.crashed here sublist lost, dense, begins⟩

variable [DecidableEq Owner]

/-- Every reachable pool stands for a dense log, and every later one for a log
that begins with it. -/
theorem log_grows (carries : Carries setting allowed keyOf seqOf registers stands)
    (obedient : ∀ owner program, setting.admits owner program →
      setting.Obeys allowed program setting.start)
    {initial : State} (empty : stands initial [] [])
    {pool : Pool face Err Value Owner Local State} (reached : setting.Reachable initial pool) :
    ∃ log, stands pool.shared (pool.threads.map Thread.noted) log ∧
      Dense keyOf seqOf (pool.trace.filterMap registers) log ∧
      ∀ later, Relation.ReflTransGen setting.Step pool later →
        ∃ grown, stands later.shared (later.threads.map Thread.noted) grown ∧ log <+: grown := by
  have start : Continues keyOf seqOf registers stands [] initial [] [] :=
    ⟨[], empty, dense_empty, List.prefix_rfl⟩
  have sound := Setting.reachable_sound (continues_invariant carries []) obedient start reached
  obtain ⟨log, here, dense, -⟩ := sound.holds
  refine ⟨log, here, dense, ?_⟩
  intro later run
  have again : setting.Sound allowed (Continues keyOf seqOf registers stands log) pool :=
    ⟨sound.obeys, ⟨log, here, dense, List.prefix_rfl⟩⟩
  have ends := Setting.run_sound (continues_invariant carries log) obedient again run
  obtain ⟨grown, there, -, begins⟩ := ends.holds
  exact ⟨grown, there, begins⟩

end Pools

end AppendLog

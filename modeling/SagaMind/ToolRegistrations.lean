import SagaMind.Sandbox.ToolRegistry

/-!
# The registry after any registrations

Tools are registered, replaced and removed in any order, and a refused
registration changes nothing. A registration without `allow_as_compensation`
does not take back what an earlier one of the same name allowed, so the registry
shows the latest registrations as long as no such tool replaces an allowed one.
-/

namespace SagaMind.ToolRegistrations

open KeyedTable Sandbox

set_option autoImplicit false

inductive Operation where
  | register (tool : ToolDefinition) (allowAsCompensation : Bool)
  | unregister (name : String)

variable (host : Contracts.Host)

def call (registry : ToolRegistry) : Operation → Except String ToolRegistry
  | .register tool allowAsCompensation => registry.register host tool allowAsCompensation
  | .unregister name => .ok (registry.unregister name)

def after (registry : ToolRegistry) (operation : Operation) : ToolRegistry :=
  match call host registry operation with
  | .ok changed => changed
  | .error _ => registry

def run (operations : List Operation) : ToolRegistry := operations.foldl (after host) {}

def Concerns (name : String) : Operation → Prop
  | .register tool _ => tool.name = name ∧ ToolRegistry.accepts host tool = .ok ()
  | .unregister other => other = name

/-- The last successful registration of a name, with no removal since, and
whether it allowed the tool as a compensation. -/
def Latest (operations : List Operation) (name : String) (allowed : Bool) : Prop :=
  ∃ earlier tool later, operations = earlier ++ .register tool allowed :: later ∧
    Concerns host name (.register tool allowed) ∧ ∀ other ∈ later, ¬Concerns host name other

/-- What `register` demands of a tool. -/
structure Contracted (tool : ToolDefinition) : Prop where
  declared : tool.mutating ≠ none
  writes : tool.capabilities.filesystem.write ≠ [] → tool.mutating = some true
  policed : tool.mutating = some true →
    ∃ policy, tool.policy = some policy ∧ policy.toolName = tool.name
  certified : tool.requiresVerifiedCompensation = true → ∃ certificate identity,
    tool.compensationCertificate = some certificate ∧ certificate.status = .proved ∧
      tool.implementationIdentity = some identity ∧
      certificate.implementationHash = Contracts.implementationHash host identity

/-- The registry shows the latest registrations. -/
structure Reflects (operations : List Operation) (registry : ToolRegistry) : Prop where
  contracted : ∀ tool ∈ registry.tools.rows, Contracted host tool
  registered : ∀ name, registry.isCompensationAllowed name = true → (registry.tools.find? name).isSome
  latest : ∀ name, registry.isCompensationAllowed name = true ↔ Latest host operations name true

/-- The call replaces an allowed tool by one that is not. -/
def Demotes (registry : ToolRegistry) : Operation → Prop
  | .register tool false =>
      ToolRegistry.accepts host tool = .ok () ∧ registry.isCompensationAllowed tool.name = true
  | _ => False

section Calls

variable {host} {registry : ToolRegistry} {tool : ToolDefinition} {allowed : Bool} {name : String}

theorem accepted_contracted (accepted : ToolRegistry.accepts host tool = .ok ()) :
    Contracted host tool := by
  unfold ToolRegistry.accepts at accepted
  split at accepted
  · cases accepted
  rename_i declared
  split at accepted
  · cases accepted
  rename_i writes
  split at accepted
  · cases accepted
  rename_i policed
  split at accepted
  · cases accepted
  rename_i named
  constructor
  · exact declared
  · intro some
    by_contra other
    exact writes ⟨some, other⟩
  · intro mutates
    cases given : tool.policy with
    | none => exact absurd ⟨decide_eq_true mutates, by rw [given]; rfl⟩ policed
    | some policy =>
        refine ⟨policy, rfl, ?_⟩
        rw [given] at named
        simpa [Option.filter] using named
  · intro required
    unfold ToolRegistry.certified at accepted
    rw [if_neg (by simp [required])] at accepted
    split at accepted
    · cases accepted
    rename_i certificate given
    split at accepted
    · cases accepted
    rename_i proved
    split at accepted
    · cases accepted
    rename_i identity identified
    split at accepted
    · cases accepted
    split at accepted
    · cases accepted
    rename_i own
    exact ⟨certificate, identity, given, not_not.mp proved, identified, not_not.mp own⟩

theorem after_refused {operation : Operation} {message : String}
    (refused : call host registry operation = .error message) : after host registry operation = registry := by
  rw [after, refused]

theorem after_accepted (accepted : ToolRegistry.accepts host tool = .ok ()) :
    after host registry (.register tool allowed) =
      { tools := registry.tools.put tool
        compTools := if allowed then insert tool.name registry.compTools else registry.compTools } := by
  rw [after, call, ToolRegistry.register, accepted]

theorem register_cases (host : Contracts.Host) (registry : ToolRegistry) (tool : ToolDefinition)
    (allowed : Bool) :
    ToolRegistry.accepts host tool = .ok () ∨
      (ToolRegistry.accepts host tool ≠ .ok () ∧ after host registry (.register tool allowed) = registry) := by
  cases accepted : ToolRegistry.accepts host tool with
  | ok accepted => exact .inl rfl
  | error message =>
      right
      constructor
      · exact nofun
      · rw [after, call, ToolRegistry.register, accepted]

theorem run_snoc (operations : List Operation) (operation : Operation) :
    run host (operations ++ [operation]) = after host (run host operations) operation := by
  rw [run, List.foldl_append]
  rfl

theorem latest_snoc (operations : List Operation) (operation : Operation) :
    Latest host (operations ++ [operation]) name allowed ↔
      (∃ tool, operation = .register tool allowed ∧ Concerns host name operation) ∨
        (¬Concerns host name operation ∧ Latest host operations name allowed) := by
  constructor
  · intro latest
    obtain ⟨earlier, tool, later, shape, concerns, last⟩ := latest
    rcases List.eq_nil_or_concat later with empty | ⟨middle, final, split⟩
    · rw [empty] at shape
      have same := List.append_inj' shape rfl
      injection same.2 with head
      rw [head]
      exact .inl ⟨tool, rfl, concerns⟩
    · rw [split, List.concat_eq_append, ← List.cons_append, ← List.append_assoc] at shape
      have same := List.append_inj' shape rfl
      injection same.2 with head
      have ends : final ∈ later := by
        rw [split, List.concat_eq_append]
        exact List.mem_append_right _ (List.mem_singleton_self _)
      right
      constructor
      · rw [head]
        exact last final ends
      · refine ⟨earlier, tool, middle, same.1, concerns, ?_⟩
        intro other member
        apply last
        rw [split, List.concat_eq_append]
        exact List.mem_append_left _ member
  · intro either
    rcases either with ⟨tool, shape, concerns⟩ | ⟨other, earlier, tool, later, shape, concerns, last⟩
    · rw [shape] at concerns ⊢
      exact ⟨operations, tool, [], rfl, concerns, fun _ impossible => absurd impossible List.not_mem_nil⟩
    · refine ⟨earlier, tool, later ++ [operation], ?_, concerns, ?_⟩
      · rw [shape, List.append_assoc, List.cons_append]
      · intro next member
        rcases List.mem_append.mp member with before | final
        · exact last next before
        · rw [List.mem_singleton.mp final]
          exact other

theorem nothing_latest : ¬Latest host [] name allowed := by
  intro latest
  obtain ⟨earlier, tool, later, shape, -⟩ := latest
  exact List.append_ne_nil_of_right_ne_nil _ (List.cons_ne_nil _ _) shape.symm

theorem allowed_iff_mem : registry.isCompensationAllowed name = true ↔ name ∈ registry.compTools :=
  decide_eq_true_iff

theorem Reflects.unregisters {operations : List Operation}
    (reflects : Reflects host operations registry) (name : String) :
    Reflects host (operations ++ [.unregister name]) (registry.unregister name) := by
  constructor
  · intro tool member
    exact reflects.contracted tool (List.mem_filter.mp member).1
  · intro other allowed
    rw [allowed_iff_mem, ToolRegistry.unregister, Finset.mem_erase] at allowed
    rw [ToolRegistry.unregister, Table.find_erase, if_neg allowed.1]
    exact reflects.registered other (allowed_iff_mem.mpr allowed.2)
  · intro other
    have before := reflects.latest other
    rw [allowed_iff_mem] at before
    rw [latest_snoc, allowed_iff_mem, ToolRegistry.unregister, Finset.mem_erase, before]
    constructor
    · intro allowed
      exact .inr ⟨fun same => allowed.1 same.symm, allowed.2⟩
    · intro either
      rcases either with ⟨tool, impossible, -⟩ | ⟨apart, latest⟩
      · cases impossible
      · exact ⟨fun same => apart same.symm, latest⟩

theorem Reflects.refuses {operations : List Operation} {tool : ToolDefinition} {allow : Bool}
    (reflects : Reflects host operations registry)
    (refused : ¬ToolRegistry.accepts host tool = .ok ()) :
    Reflects host (operations ++ [.register tool allow]) registry := by
  have unconcerned (other : String) : ¬Concerns host other (.register tool allow) :=
    fun concerns => refused concerns.2
  constructor
  · exact reflects.contracted
  · exact reflects.registered
  · intro other
    rw [reflects.latest, latest_snoc]
    constructor
    · exact fun latest => .inr ⟨unconcerned other, latest⟩
    · intro either
      rcases either with ⟨-, -, concerns⟩ | ⟨-, latest⟩
      · exact absurd concerns (unconcerned other)
      · exact latest

/-- An accepted registration, unless it takes the tool off the allowed ones. -/
theorem Reflects.accepts {operations : List Operation} {tool : ToolDefinition} {allow : Bool}
    (reflects : Reflects host operations registry)
    (accepted : ToolRegistry.accepts host tool = .ok ())
    (keeps : ¬Demotes host registry (.register tool allow)) :
    Reflects host (operations ++ [.register tool allow])
      (after host registry (.register tool allow)) := by
  have concerns (other : String) :
      Concerns host other (.register tool allow) ↔ tool.name = other :=
    and_iff_left accepted
  rw [after_accepted accepted]
  constructor
  · intro other member
    rcases Table.mem_put_rows member with new | old
    · rw [new]
      exact accepted_contracted accepted
    · exact reflects.contracted other old
  · intro other allowed
    rw [Table.find_put]
    split
    · rfl
    · rename_i apart
      apply reflects.registered other
      rw [allowed_iff_mem] at allowed ⊢
      cases allow with
      | true =>
          rcases Finset.mem_insert.mp allowed with same | earlier
          · exact absurd same.symm apart
          · exact earlier
      | false => exact allowed
  · intro other
    have before := reflects.latest other
    rw [allowed_iff_mem] at before
    rw [latest_snoc, allowed_iff_mem, concerns, ← before]
    cases allow with
    | true =>
        rw [if_pos rfl, Finset.mem_insert]
        constructor
        · intro either
          by_cases same : tool.name = other
          · exact .inl ⟨tool, rfl, same⟩
          · exact .inr ⟨same, either.resolve_left fun equal => same equal.symm⟩
        · intro either
          rcases either with ⟨-, -, same⟩ | ⟨-, earlier⟩
          · exact .inl same.symm
          · exact .inr earlier
    | false =>
        rw [if_neg (by decide)]
        constructor
        · intro earlier
          right
          refine ⟨fun same => ?_, earlier⟩
          rw [← same] at earlier
          exact keeps ⟨accepted, allowed_iff_mem.mpr earlier⟩
        · intro either
          rcases either with ⟨other, impossible, -⟩ | ⟨-, earlier⟩
          · injection impossible with _ flag
            cases flag
          · exact earlier

/-- A call that demotes nothing keeps the registry in step with the latest
registrations. -/
theorem Reflects.call {operations : List Operation} {operation : Operation}
    (reflects : Reflects host operations registry) (keeps : ¬Demotes host registry operation) :
    Reflects host (operations ++ [operation]) (after host registry operation) := by
  cases operation with
  | unregister name => exact reflects.unregisters name
  | register tool allow =>
      rcases register_cases host registry tool allow with accepted | ⟨refused, same⟩
      · exact reflects.accepts accepted keeps
      · rw [same]
        exact reflects.refuses refused

/-- A demoted name stays allowed, against its latest registration. -/
theorem demoted_stays {operations : List Operation} {operation : Operation}
    (demotes : Demotes host registry operation) :
    ¬Reflects host (operations ++ [operation]) (after host registry operation) := by
  intro reflects
  cases operation with
  | unregister => exact demotes.elim
  | register tool allow =>
      cases allow with
      | true => exact demotes.elim
      | false =>
          obtain ⟨accepted, allowed⟩ := demotes
          have still : (after host registry (.register tool false)).isCompensationAllowed tool.name =
              true := by
            rw [after_accepted accepted]
            exact allowed
          rcases (latest_snoc operations _).mp ((reflects.latest tool.name).mp still) with
            ⟨other, impossible, -⟩ | ⟨apart, -⟩
          · injection impossible with _ flag
            cases flag
          · exact apart ⟨rfl, accepted⟩

end Calls

/-- Refused calls change nothing, and after each call of a sequence the registry
shows the latest registrations, exactly when no call of the sequence replaces an
allowed tool by one that is not. -/
theorem registry_reflects_iff (operations : List Operation) :
    ((∀ before operation later message, operations = before ++ operation :: later →
        call host (run host before) operation = .error message →
        run host (before ++ [operation]) = run host before) ∧
      ∀ before later, operations = before ++ later → Reflects host before (run host before)) ↔
      ∀ before operation later, operations = before ++ operation :: later →
        ¬Demotes host (run host before) operation := by
  constructor
  · intro both before operation later shape demotes
    have reflects := both.2 (before ++ [operation]) later (by rw [shape, List.append_cons])
    rw [run_snoc] at reflects
    exact demoted_stays demotes reflects
  · intro keeps
    constructor
    · intro before operation later message _ refused
      rw [run_snoc, after_refused refused]
    · intro before
      induction before using List.reverseRecOn with
      | nil =>
          intro _ _
          constructor
          · exact fun _ impossible => absurd impossible List.not_mem_nil
          · exact fun _ impossible => absurd (allowed_iff_mem.mp impossible) (Finset.notMem_empty _)
          · intro name
            constructor
            · exact fun impossible =>
                absurd (allowed_iff_mem.mp impossible) (Finset.notMem_empty _)
            · exact fun impossible => absurd impossible nothing_latest
      | append_singleton earlier operation ih =>
          intro later shape
          have split : operations = earlier ++ operation :: later := by
            rw [shape, List.append_assoc, List.singleton_append]
          rw [run_snoc]
          exact (ih _ split).call (keeps earlier operation later split)

section Samples

def plainHost : Contracts.Host where
  repr := fun _ => ""
  reprExpression := fun _ => ""
  sha256 := fun _ => ""

theorem standard_limits : 0 < 1000000 ∧ 0 < 256 ∧ 0 < 65536 := by decide

theorem no_variables : ∀ name ∈ ([] : List String), name ≠ "" ∧ '=' ∉ name.toList := nofun

def readTool : ToolDefinition where
  name := "READ"
  handler := fun _ => pure { success := true }
  capabilities := { limited := standard_limits, variableNames := no_variables }
  mutating := some false

/-- `READ` is allowed as a compensation, and then replaced by a tool that is not. -/
def replaced : List Operation := [.register readTool true, .register readTool false]

theorem replaced_stays_allowed :
    (run plainHost replaced).isCompensationAllowed "READ" = true ∧
      ¬Latest plainHost replaced "READ" true ∧
      ¬Reflects plainHost replaced (run plainHost replaced) := by
  have accepted : ToolRegistry.accepts plainHost readTool = .ok () := by decide
  have demotes : Demotes plainHost (run plainHost [.register readTool true])
      (.register readTool false) := ⟨accepted, by decide⟩
  have unlike : ¬Reflects plainHost replaced (run plainHost replaced) :=
    @demoted_stays plainHost _ [.register readTool true] _ demotes
  refine ⟨by decide, ?_, unlike⟩
  intro latest
  rcases (latest_snoc [.register readTool true] (.register readTool false)).mp latest with
    ⟨tool, impossible, -⟩ | ⟨apart, -⟩
  · simp at impossible
  · exact apart ⟨rfl, accepted⟩

end Samples

end SagaMind.ToolRegistrations

import SagaMind.BackendAgreement
import SagaMind.StateStore.RedisClients

/-!
# The journal as a dense log

Whatever the clients of a saga do at the same time, the journal in memory and on
Postgres lists every step once, in the order of registration and numbered from
one, and what is registered never changes. On Redis a client numbers its record
by a length it read before, so two records may get one number.
-/

namespace SagaMind.JournalDensity

open AppendLog CallProgram

set_option autoImplicit false

variable {Args Local State : Type} {face : Interface}

/-- A journal, its clients, and the events that register a step. -/
structure Journal (face : Interface) (Args Local State : Type) where
  clients : Setting face PyError (Effect Args) Unit Local State
  initial : State
  getEffects : State → Except PyError (List (Effect Args))
  registers : Event face → Option String

namespace Journal

structure Lists (journal : Journal face Args Local State)
    (pool : Pool face PyError (Effect Args) Unit Local State) (effects : List (Effect Args)) :
    Prop where
  listed : journal.getEffects pool.shared = .ok effects
  order : effects.map Effect.stepId =
    registrations (pool.trace.filterMap journal.registers)
  once : (effects.map Effect.stepId).Nodup
  numbered : effects.map Effect.seq = List.range' 1 effects.length

/-- So it is after every run, and a later listing begins with the same records,
up to state, result and error. -/
def AppendOnly (journal : Journal face Args Local State) : Prop :=
  ∀ pool, journal.clients.Reachable journal.initial pool →
    ∃ effects, journal.Lists pool effects ∧
      ∀ later, Relation.ReflTransGen journal.clients.Step pool later →
        ∃ grown, journal.Lists later grown ∧ effects.map Effect.core <+: grown.map Effect.core

variable {journal : Journal face Args Local State} {allowed : face.Call → Local → Prop}
  {stands : State → List Local → List (Effect Args) → Prop}

theorem lists_of_dense {pool : Pool face PyError (Effect Args) Unit Local State}
    {log effects : List (Effect Args)}
    (dense : Dense Effect.stepId Effect.seq (pool.trace.filterMap journal.registers) log)
    (listed : journal.getEffects pool.shared = .ok effects)
    (cores : effects.map Effect.core = log) : journal.Lists pool effects := by
  have steps : log.map Effect.stepId = effects.map Effect.stepId := by
    rw [← cores, List.map_map]
    rfl
  have seqs : log.map Effect.seq = effects.map Effect.seq := by
    rw [← cores, List.map_map]
    rfl
  have count : log.length = effects.length := by rw [← cores, List.length_map]
  constructor
  · exact listed
  · rw [← steps]
    exact dense.order
  · rw [← steps, dense.order]
    exact registrations_nodup _
  · rw [← seqs, dense.numbered, count]

theorem append_only_of_carries
    (carries : Carries journal.clients allowed Effect.stepId Effect.seq journal.registers stands)
    (obedient : ∀ owner program, journal.clients.admits owner program →
      journal.clients.Obeys allowed program journal.clients.start)
    (empty : stands journal.initial [] [])
    (listed : ∀ shared notes log, stands shared notes log →
      ∃ effects, journal.getEffects shared = .ok effects ∧ effects.map Effect.core = log) :
    journal.AppendOnly := by
  intro pool reached
  obtain ⟨log, here, dense, grows⟩ := log_grows carries obedient empty reached
  obtain ⟨effects, shown, cores⟩ := listed _ _ _ here
  refine ⟨effects, lists_of_dense dense shown cores, ?_⟩
  intro later run
  obtain ⟨grown, there, begins⟩ := grows later run
  obtain ⟨records, laterShown, laterCores⟩ := listed _ _ _ there
  -- The later pool is reachable as well, so the log it stands for is dense.
  obtain ⟨last, stands, laterDense, -⟩ :=
    log_grows carries obedient empty (Setting.reachable_run reached run)
  obtain ⟨again, againShown, againCores⟩ := listed _ _ _ stands
  have same : again = records := Except.ok.inj (againShown.symm.trans laterShown)
  rw [same] at againCores
  refine ⟨records, lists_of_dense laterDense laterShown againCores, ?_⟩
  rw [cores, laterCores]
  exact begins

end Journal

section Backends

variable [DecidableEq Args]

def lockedJournal (sagaId : String) : Journal (lockedFace Args) Args Unit (Store Args) where
  clients := lockedClients sagaId
  initial := .empty
  getEffects := fun store => .ok (store.effects sagaId).rows
  registers := lockedRegisters

def transactionJournal (server : PostgresStore.Server Args) (sagaId : Uuid) :
    Journal (transactionFace Args) Args Unit (PostgresStore.Database Args) where
  clients := transactionClients server sagaId
  initial := .empty
  getEffects := fun database => .ok (PostgresStore.getEffects database sagaId)
  registers := transactionRegisters

/-- `permits` singles out the runs under study. -/
def redisJournal (wire : RedisStore.Wire Args) (sagaId : String)
    (permits : Redis.Server → List RedisStore.ClientNotes → RedisStore.ClientNotes →
      Redis.Request RedisStore.Script → Prop) :
    Journal (Redis.face RedisStore.Script) Args RedisStore.ClientNotes Redis.Server where
  clients := RedisStore.redisClients wire sagaId permits
  initial := .empty
  getEffects := fun server => ((RedisStore.getEffects wire sagaId).evaluate
    (Redis.Request.serve RedisStore.Script.body) server).1
  registers := RedisStore.scriptRegisters

theorem locked_append_only (sagaId : String) :
    (lockedJournal sagaId : Journal (lockedFace Args) Args Unit (Store Args)).AppendOnly := by
  apply Journal.append_only_of_carries (locked_carries sagaId)
  · exact fun _ program _ => conforms_free (fun _ _ => trivial) program _
  · rfl
  · intro shared notes log here
    exact ⟨_, rfl, here⟩

theorem transaction_append_only (server : PostgresStore.Server Args) (sagaId : Uuid) :
    (transactionJournal server sagaId).AppendOnly := by
  apply Journal.append_only_of_carries (transaction_carries server sagaId)
  · exact fun _ program _ => conforms_free (fun _ _ => trivial) program _
  · exact ⟨rfl, rfl⟩
  · intro shared notes log here
    refine ⟨_, rfl, ?_⟩
    rw [PostgresStore.effects_of_seqs (stands_seqs here), List.map_map, ← here.cores]
    rfl

theorem redis_append_only (wire : RedisStore.Wire Args) (sagaId : String) :
    (redisJournal wire sagaId RedisStore.Fresh).AppendOnly := by
  apply Journal.append_only_of_carries (RedisStore.server_carries wire sagaId)
  · exact RedisStore.clients_obey
  · exact ⟨⟨[], RedisStore.empty_held wire sagaId, rfl⟩,
      fun noted impossible => absurd impossible List.not_mem_nil⟩
  · intro shared notes log here
    obtain ⟨records, held, cores⟩ := here.records
    have shown := congrArg Prod.fst (RedisStore.get_effects_served held.listed held.held)
    have plain : records.map RedisStore.withoutBlanks = records := by
      conv_rhs => rw [← List.map_id records]
      exact List.map_congr_left held.plain
    rw [plain] at shown
    exact ⟨records, shown, cores⟩

/-- The journal is an append-only, densely numbered log in memory and on
Postgres, and on Redis in every run whose registrations find the length that
their clients read. -/
theorem journal_append_only (sagaId : String) (tableSaga : Uuid)
    (server : PostgresStore.Server Args) (wire : RedisStore.Wire Args) :
    (lockedJournal sagaId : Journal (lockedFace Args) Args Unit (Store Args)).AppendOnly ∧
      (transactionJournal server tableSaga).AppendOnly ∧
      (redisJournal wire sagaId RedisStore.Fresh).AppendOnly :=
  ⟨locked_append_only sagaId, transaction_append_only server tableSaga,
    redis_append_only wire sagaId⟩

end Backends

section Clash

open RedisStore

def samplePreparation (stepId : String) :
    Program (Redis.face Script) PyError (Effect Unit) :=
  prepareEffect BackendAgreement.emptyWire "2026-01-01T00:00:00+00:00" "s" stepId "deposit"
    ⟨"DEPOSIT", ()⟩ ⟨"WITHDRAW", ()⟩ none

def registering (permits : Redis.Server → List ClientNotes → ClientNotes →
      Redis.Request Script → Prop)
    (check : Redis.Server → List ClientNotes → ClientNotes → Redis.Request Script → Bool)
    (order : List Nat) : Pool (Redis.face Script) PyError (Effect Unit) Unit ClientNotes Redis.Server :=
  scheduled (redisClients BackendAgreement.emptyWire "s" permits)
    (fun _ request shared => Redis.Request.serve Script.body request shared) check .empty
    [((), samplePreparation "s1"), ((), samplePreparation "s2")] order

theorem registering_reachable
    {permits : Redis.Server → List ClientNotes → ClientNotes → Redis.Request Script → Prop}
    {check : Redis.Server → List ClientNotes → ClientNotes → Redis.Request Script → Bool}
    (sound : ∀ server others noted request, check server others noted request = true →
      permits server others noted request) (order : List Nat) :
    (redisClients BackendAgreement.emptyWire "s" permits).Reachable .empty
      (registering permits check order) := by
  apply scheduled_reachable
  · exact fun _ _ _ => rfl
  · exact sound
  · intro entry member
    rcases List.mem_cons.mp member with first | rest
    · rw [first]
      exact .inl ⟨_, _, _, _, _, _, rfl⟩
    · rw [List.mem_singleton.mp rest]
      exact .inl ⟨_, _, _, _, _, _, rfl⟩

/-- A check that only lets a registration through at the length its client read. -/
def findsLength (server : Redis.Server) (_others : List ClientNotes) (noted : ClientNotes) :
    Redis.Request Script → Bool
  | .eval .prepare keys _ => ((server.list (keys.getD 1 "")).map List.length).toOption = noted.length
  | _ => true

theorem finds_length_fresh (server : Redis.Server) (others : List ClientNotes)
    (noted : ClientNotes) (request : Redis.Request Script)
    (passed : findsLength server others noted request = true) : Fresh server others noted request := by
  rintro keys argv rfl
  have found : ((server.list (keys.getD 1 "")).map List.length).toOption = some noted.length :=
    of_decide_eq_true passed
  cases length : (server.list (keys.getD 1 "")).map List.length with
  | error fault =>
      rw [length] at found
      cases found
  | ok count =>
      rw [length] at found
      cases found
      exact .inr rfl

def turns : Pool (Redis.face Script) PyError (Effect Unit) Unit ClientNotes Redis.Server :=
  registering Fresh findsLength [0, 0, 0, 1, 1, 1]

/-- The theorem where both clients have registered their steps. -/
theorem numbers_in_turn :
    (∃ effects, (redisJournal BackendAgreement.emptyWire "s" Fresh).Lists turns effects) ∧
      ((redisJournal BackendAgreement.emptyWire "s" Fresh).getEffects turns.shared).map
        (List.map fun effect => (effect.stepId, effect.seq)) = .ok [("s1", 1), ("s2", 2)] := by
  constructor
  · obtain ⟨effects, lists, -⟩ := (journal_append_only "s" BackendAgreement.sampleSaga
      BackendAgreement.emptyServer BackendAgreement.emptyWire).2.2 turns
      (registering_reachable finds_length_fresh _)
    exact ⟨effects, lists⟩
  · decide

def anyRun (_server : Redis.Server) (_others : List ClientNotes) (_noted : ClientNotes)
    (_request : Redis.Request Script) : Prop := True

def clash : Pool (Redis.face Script) PyError (Effect Unit) Unit ClientNotes Redis.Server :=
  registering anyRun (fun _ _ _ _ => true) [0, 1, 0, 1, 0, 1]

theorem clash_reachable :
    (redisClients BackendAgreement.emptyWire "s" anyRun).Reachable .empty clash :=
  registering_reachable (fun _ _ _ _ _ => trivial) _

/-- Two clients get the same number for different steps. -/
theorem numbers_clash :
    ((redisJournal BackendAgreement.emptyWire "s" anyRun).getEffects clash.shared).map
        (List.map Effect.seq) = .ok [1, 1] ∧
      ¬(redisJournal BackendAgreement.emptyWire "s" anyRun).AppendOnly := by
  have shown : ((redisJournal BackendAgreement.emptyWire "s" anyRun).getEffects clash.shared).map
      (List.map Effect.seq) = .ok [1, 1] := by decide
  refine ⟨shown, fun appendOnly => ?_⟩
  obtain ⟨effects, lists, -⟩ := appendOnly clash clash_reachable
  rw [lists.listed] at shown
  have seqs : effects.map Effect.seq = [1, 1] := Except.ok.inj shown
  have count := congrArg List.length seqs
  rw [List.length_map] at count
  have dense := lists.numbered
  rw [seqs, count] at dense
  exact absurd dense (by decide)

end Clash

end SagaMind.JournalDensity

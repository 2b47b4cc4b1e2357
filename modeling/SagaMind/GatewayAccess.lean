import SagaMind.Gateway.Access

/-!
# The text of `API_KEYS` decides who gets in

An entry of the text is a key, or a key and a tenant with a colon between them,
with blanks anywhere around; an entry of blanks says nothing, and the last
entry of a key holds. Both gateways let the same callers in, for any text.
-/

namespace SagaMind.GatewayAccess

open KeyedTable Words Gateway Settings

set_option autoImplicit false

def entries (settings : Settings) : List (List Char) := settings.apiKeys.toList.splitOn ','

def Idle (raw : List Char) : Prop := ∀ c ∈ raw, Contracts.isSpace c = true

inductive Names (raw : List Char) : String → Option String → Prop
  | plain {key : List Char} (reads : Reads Contracts.isSpace raw key) (filled : key ≠ [])
      (single : ':' ∉ raw) : Names raw (String.ofList key) none
  | bound {front back key tenant : List Char} (parts : raw = front ++ ':' :: back)
      (first : ':' ∉ front) (reads : Reads Contracts.isSpace front key)
      (binds : Reads Contracts.isSpace back tenant) (filled : tenant ≠ []) :
      Names raw (String.ofList key) (some (String.ofList tenant))
  | unbound {front back key : List Char} (parts : raw = front ++ ':' :: back)
      (first : ':' ∉ front) (reads : Reads Contracts.isSpace front key) (idle : Idle back) :
      Names raw (String.ofList key) none

def LastNames (raws : List (List Char)) (key : String) (bound : Option String) : Prop :=
  ∃ before raw after, raws = before ++ raw :: after ∧ Names raw key bound ∧
    ∀ other ∈ after, ∀ other', ¬Names other key other'

/-- Nobody is asked for a key. -/
def Open (settings : Settings) : Prop :=
  settings.isProduction = false ∧ ∀ raw ∈ entries settings, Idle raw

/-- The caller with this key may act for the tenant. -/
def Entitled (settings : Settings) (key : Option String) (tenantId : String) : Prop :=
  Open settings ∨ ∃ own ∈ key, own ≠ "" ∧ ∃ bound, LastNames (entries settings) own bound ∧
    ∀ tenant ∈ bound, tenant = tenantId

section Entries

theorem idle_iff {raw : List Char} : Idle raw ↔ strip Contracts.isSpace raw = [] := by
  rw [← reads_iff]
  constructor
  · intro idle
    refine ⟨⟨raw, [], by simp, idle, fun _ member => absurd member List.not_mem_nil⟩, ?_, ?_⟩
    · exact fun _ first => by cases first
    · exact fun _ last => by cases last
  · rintro ⟨⟨front, back, rfl, before, after⟩, _⟩
    rw [List.append_nil]
    exact List.forall_mem_append.mpr ⟨before, after⟩

theorem bound_to_none_iff {back : List Char} : boundTo back = none ↔ Idle back := by
  rw [idle_iff, boundTo]
  split
  · rename_i empty
    exact ⟨fun _ => empty, fun _ => rfl⟩
  · rename_i filled
    constructor
    · exact fun same => by cases same
    · exact fun empty => absurd empty filled

theorem bound_to_some_iff {back : List Char} {tenant : String} : boundTo back = some tenant ↔
    ∃ word, Reads Contracts.isSpace back word ∧ word ≠ [] ∧ tenant = String.ofList word := by
  rw [boundTo]
  split
  · rename_i empty
    constructor
    · exact fun same => by cases same
    · rintro ⟨word, reads, filled, rfl⟩
      exact absurd (reads_iff.mp reads ▸ empty) filled
  · rename_i filled
    constructor
    · intro same
      exact ⟨_, reads_iff.mpr rfl, filled, (Option.some.inj same).symm⟩
    · rintro ⟨word, reads, _, rfl⟩
      rw [reads_iff.mp reads]

theorem key_entry_parted {front : List Char} (first : ':' ∉ front) (back : List Char) :
    keyEntry (front ++ ':' :: back) =
      some (String.ofList (strip Contracts.isSpace front), boundTo back) := by
  have shown : Contracts.isSpace ':' = false := by decide
  have key : strip Contracts.isSpace (front.dropWhile Contracts.isSpace) =
      strip Contracts.isSpace front := by
    conv_rhs => rw [← List.takeWhile_append_dropWhile (p := Contracts.isSpace) (l := front)]
    rw [strip_before fun letter member => List.mem_takeWhile_imp member]
  have tenant : boundTo (back.rdropWhile Contracts.isSpace) = boundTo back := by
    have same : strip Contracts.isSpace (back.rdropWhile Contracts.isSpace) =
        strip Contracts.isSpace back := by
      conv_rhs => rw [← List.rdropWhile_append_rtakeWhile (p := Contracts.isSpace) (l := back)]
      rw [strip_behind fun letter member => List.mem_rtakeWhile_imp member]
    rw [boundTo, same, boundTo]
  have absent : ':' ∉ front.dropWhile Contracts.isSpace :=
    fun member => first (List.dropWhile_subset _ member)
  rw [keyEntry, strip_at shown]
  split
  · rename_i empty
    simp at empty
  · rw [part_at absent]
    dsimp only
    rw [key, tenant]

theorem strip_subset (raw : List Char) : strip Contracts.isSpace raw ⊆ raw := by
  obtain ⟨⟨front, back, shape, _⟩, _⟩ :=
    @reads_iff Char Contracts.isSpace raw (strip Contracts.isSpace raw) |>.mpr rfl
  intro letter member
  rw [shape]
  exact List.mem_append_left _ (List.mem_append_right _ member)

theorem key_entry_single {raw : List Char} (single : ':' ∉ raw) :
    keyEntry raw = if strip Contracts.isSpace raw = [] then none
      else some (String.ofList (strip Contracts.isSpace raw), none) := by
  rw [keyEntry]
  split
  · rename_i empty
    rw [if_pos empty]
  · rename_i filled
    rw [part_none fun member => single (strip_subset raw member), if_neg filled]

theorem key_entry_iff {raw : List Char} {key : String} {bound : Option String} :
    keyEntry raw = some (key, bound) ↔ Names raw key bound := by
  by_cases parted : ':' ∈ raw
  · obtain ⟨front, back, rfl, first⟩ := List.eq_append_cons_of_mem parted
    have unique : ∀ {other after : List Char}, front ++ ':' :: back = other ++ ':' :: after →
        ':' ∉ other → other = front ∧ after = back := by
      intro other after same absent
      have parts := congrArg (part ':') same
      rw [part_at first, part_at absent] at parts
      obtain ⟨rfl, rfl⟩ := Prod.mk.inj (Option.some.inj parts)
      exact ⟨rfl, rfl⟩
    rw [key_entry_parted first]
    constructor
    · intro same
      obtain ⟨rfl, tenant⟩ := Prod.mk.inj (Option.some.inj same)
      cases bound with
      | none => exact .unbound rfl first (reads_iff.mpr rfl) (bound_to_none_iff.mp tenant)
      | some name =>
          obtain ⟨word, reads, filled, rfl⟩ := bound_to_some_iff.mp tenant
          exact .bound rfl first (reads_iff.mpr rfl) reads filled
    · intro names
      cases names with
      | plain reads filled single => exact absurd parted single
      | bound parts absent reads binds filled =>
          obtain ⟨rfl, rfl⟩ := unique parts absent
          rw [reads_iff.mp reads, bound_to_some_iff.mpr ⟨_, binds, filled, rfl⟩]
      | unbound parts absent reads idle =>
          obtain ⟨rfl, rfl⟩ := unique parts absent
          rw [reads_iff.mp reads, bound_to_none_iff.mpr idle]
  · rw [key_entry_single parted]
    constructor
    · intro same
      split at same
      · cases same
      · rename_i filled
        obtain ⟨rfl, rfl⟩ := Prod.mk.inj (Option.some.inj same)
        exact .plain (reads_iff.mpr rfl) filled parted
    · intro names
      cases names with
      | plain reads filled single => rw [reads_iff.mp reads, if_neg filled]
      | bound parts => exact absurd (parts ▸ List.mem_append_cons_self) parted
      | unbound parts => exact absurd (parts ▸ List.mem_append_cons_self) parted

theorem key_entry_none_iff {raw : List Char} : keyEntry raw = none ↔ Idle raw := by
  by_cases parted : ':' ∈ raw
  · obtain ⟨front, back, rfl, first⟩ := List.eq_append_cons_of_mem parted
    rw [key_entry_parted first]
    constructor
    · exact fun same => by cases same
    · intro idle
      have blank := idle ':' List.mem_append_cons_self
      exact absurd blank (by decide)
  · rw [key_entry_single parted, idle_iff]
    split
    · rename_i empty
      exact ⟨fun _ => empty, fun _ => rfl⟩
    · rename_i filled
      constructor
      · exact fun same => by cases same
      · exact fun empty => absurd empty filled

end Entries

section Rings

def remember (ring : KeyRing) (raw : List Char) : KeyRing :=
  match keyEntry raw with
  | none => ring
  | some entry => ring.put entry

theorem ring_remembers (settings : Settings) :
    settings.apiKeyTenantMap = (entries settings).foldl remember .empty := rfl

theorem find_remember (ring : KeyRing) (raw : List Char) (key : String) :
    (remember ring raw).find? key =
      match keyEntry raw with
      | none => ring.find? key
      | some entry => if entry.1 = key then some entry else ring.find? key := by
  unfold remember
  cases keyEntry raw with
  | none => rfl
  | some entry => exact Table.find_put ring entry key

theorem last_names_snoc {raws : List (List Char)} {raw : List Char} {key : String}
    {bound : Option String} : LastNames (raws ++ [raw]) key bound ↔
      Names raw key bound ∨ (∀ other, ¬Names raw key other) ∧ LastNames raws key bound := by
  constructor
  · rintro ⟨before, last, after, shape, names, others⟩
    rcases List.eq_nil_or_concat after with rfl | ⟨rest, final, rfl⟩
    · obtain ⟨rfl, same⟩ := List.append_inj' shape rfl
      obtain rfl := List.singleton_inj.mp same
      exact .inl names
    · rw [List.concat_eq_append, ← List.cons_append, ← List.append_assoc] at shape
      obtain ⟨rfl, same⟩ := List.append_inj' shape rfl
      obtain rfl := List.singleton_inj.mp same
      refine .inr ⟨others raw (by simp), before, last, rest, rfl, names, ?_⟩
      exact fun other member => others other (by simp [member])
  · rintro (names | ⟨unnamed, before, last, after, rfl, names, others⟩)
    · exact ⟨raws, raw, [], rfl, names, fun _ member => absurd member List.not_mem_nil⟩
    · refine ⟨before, last, after ++ [raw], by simp, names, ?_⟩
      exact List.forall_mem_append.mpr ⟨others, List.forall_mem_singleton.mpr unnamed⟩

/-- The table holds what the last entry of a key says, by induction on the
entries from the front. -/
theorem find_ring_iff {raws : List (List Char)} {key : String} {bound : Option String} :
    (raws.foldl remember .empty).find? key = some (key, bound) ↔ LastNames raws key bound := by
  induction raws using List.reverseRecOn with
  | nil =>
      constructor
      · exact fun found => by cases found
      · rintro ⟨before, raw, after, shape, _⟩
        simp at shape
  | append_singleton raws raw ih =>
      rw [List.foldl_append, List.foldl_cons, List.foldl_nil, find_remember, last_names_snoc, ← ih]
      cases written : keyEntry raw with
      | none =>
          have unnamed : ∀ other, ¬Names raw key other := by
            intro other names
            rw [key_entry_iff.mpr names] at written
            cases written
          simp [unnamed]
      | some entry =>
          obtain ⟨own, tenant⟩ := entry
          have names : Names raw own tenant := key_entry_iff.mp written
          dsimp only
          split
          · rename_i same
            subst same
            have said : Names raw own bound ↔ tenant = bound := by
              rw [← key_entry_iff, written]
              simp
            have refuted : ¬∀ other, ¬Names raw own other := fun never => never _ names
            simp [said, refuted]
          · rename_i apart
            have unnamed : ∀ other, ¬Names raw key other := by
              intro other given
              rw [key_entry_iff.mpr given] at written
              exact apart (Prod.mk.inj (Option.some.inj written)).1.symm
            simp [unnamed]

/-- A key that is named anywhere is named for the last time somewhere. -/
theorem exists_last_names {raws : List (List Char)} {raw : List Char} (member : raw ∈ raws)
    {key : String} {bound : Option String} (names : Names raw key bound) :
    ∃ other, LastNames raws key other := by
  induction raws using List.reverseRecOn with
  | nil => exact absurd member List.not_mem_nil
  | append_singleton raws final ih =>
      by_cases named : ∃ other, Names final key other
      · obtain ⟨other, last⟩ := named
        exact ⟨other, last_names_snoc.mpr (.inl last)⟩
      · rw [not_exists] at named
        rcases List.mem_append.mp member with earlier | last
        · obtain ⟨other, before⟩ := ih earlier
          exact ⟨other, last_names_snoc.mpr (.inr ⟨named, before⟩)⟩
        · obtain rfl := List.mem_singleton.mp last
          exact absurd names (named bound)

theorem ring_empty_iff {raws : List (List Char)} :
    (raws.foldl remember .empty).rows = [] ↔ ∀ raw ∈ raws, Idle raw := by
  constructor
  · intro empty raw member
    by_contra written
    rw [← key_entry_none_iff] at written
    obtain ⟨⟨key, bound⟩, entry⟩ := Option.ne_none_iff_exists'.mp written
    obtain ⟨other, last⟩ := exists_last_names member (key_entry_iff.mp entry)
    have found := find_ring_iff.mpr last
    rw [Table.find?, empty] at found
    cases found
  · intro idle
    have kept : ∀ ring : KeyRing, raws.foldl remember ring = ring := by
      induction raws with
      | nil => exact fun ring => rfl
      | cons raw raws ih =>
          intro ring
          rw [List.forall_mem_cons] at idle
          rw [List.foldl_cons, remember, key_entry_none_iff.mpr idle.1]
          exact ih idle.2 ring
    rw [kept]
    rfl

end Rings

section Access

variable {settings : Settings} {key : Option String} {tenantId : String}

theorem auth_enabled_iff : settings.authEnabled = false ↔ Open settings := by
  rw [authEnabled, Bool.or_eq_false_iff, decide_eq_false_iff_not, not_not, ring_remembers,
    ring_empty_iff]
  exact and_comm

theorem api_key_set_iff {own : String} : settings.apiKeySet own = true ↔
    ∃ bound, LastNames (entries settings) own bound := by
  rw [apiKeySet, Option.isSome_iff_exists, ring_remembers]
  constructor
  · rintro ⟨⟨other, bound⟩, found⟩
    obtain rfl : other = own := Table.find_key found
    exact ⟨bound, find_ring_iff.mp found⟩
  · rintro ⟨bound, last⟩
    exact ⟨_, find_ring_iff.mpr last⟩

theorem bound_of_last {own : String} {bound : Option String}
    (last : LastNames (entries settings) own bound) :
    (settings.apiKeyTenantMap.find? own).bind Prod.snd = bound := by
  rw [ring_remembers, find_ring_iff.mpr last]
  rfl

theorem open_unbound (opened : Open settings) : getBoundTenant settings key = none := by
  have empty : settings.apiKeyTenantMap.rows = [] := by
    rw [ring_remembers, ring_empty_iff]
    exact opened.2
  cases key with
  | none => rfl
  | some own =>
      rw [getBoundTenant, Table.find?, empty]
      exact ite_self none

theorem open_nameless (opened : Open settings) {own : String} {bound : Option String} :
    ¬LastNames (entries settings) own bound := by
  rintro ⟨before, raw, after, shape, names, _⟩
  have idle : Idle raw := by
    apply opened.2
    rw [shape]
    exact List.mem_append_cons_self
  rw [key_entry_iff.symm, key_entry_none_iff.mpr idle] at names
  cases names

theorem last_names_unique {own : String} {bound other : Option String}
    (first : LastNames (entries settings) own bound)
    (second : LastNames (entries settings) own other) : bound = other :=
  (bound_of_last first).symm.trans (bound_of_last second)

/-- The key is one of the settings, bound like this. -/
def Held (settings : Settings) (key : Option String) (bound : Option String) : Prop :=
  ∃ own ∈ key, own ≠ "" ∧ LastNames (entries settings) own bound

theorem held_unique {bound other : Option String} (first : Held settings key bound)
    (second : Held settings key other) : bound = other := by
  obtain ⟨own, same, _, last⟩ := first
  obtain ⟨again, also, _, later⟩ := second
  obtain rfl := Option.some.inj (same.symm.trans also)
  exact last_names_unique last later

theorem entitled_iff : Entitled settings key tenantId ↔
    Open settings ∨ ∃ bound, Held settings key bound ∧ ∀ tenant ∈ bound, tenant = tenantId := by
  constructor
  · rintro (opened | ⟨own, same, filled, bound, last, binds⟩)
    · exact .inl opened
    · exact .inr ⟨bound, ⟨own, same, filled, last⟩, binds⟩
  · rintro (opened | ⟨bound, ⟨own, same, filled, last⟩, binds⟩)
    · exact .inl opened
    · exact .inr ⟨own, same, filled, bound, last, binds⟩

theorem held_known {own : String} {bound : Option String} (held : Held settings (some own) bound) :
    own ≠ "" ∧ settings.apiKeySet own = true ∧
      (settings.apiKeyTenantMap.find? own).bind Prod.snd = bound := by
  obtain ⟨other, same, filled, last⟩ := held
  obtain rfl := Option.some.inj same
  exact ⟨filled, api_key_set_iff.mpr ⟨bound, last⟩, bound_of_last last⟩

theorem unheld_unknown {own : String} (filled : own ≠ "")
    (unheld : ∀ bound, ¬Held settings (some own) bound) : settings.apiKeySet own = false := by
  rw [← Bool.not_eq_true, api_key_set_iff]
  rintro ⟨bound, last⟩
  exact unheld bound ⟨own, rfl, filled, last⟩

theorem closed_unheld (closed : settings.authEnabled = true)
    (unheld : ∀ bound, ¬Held settings key bound) :
    requireApiKey settings key = .error (.failure 401 "Invalid or missing API key.") := by
  unfold requireApiKey
  rw [if_neg (by simp [closed])]
  cases key with
  | none => rfl
  | some own =>
      by_cases filled : own = ""
      · exact if_pos (.inl filled)
      · exact if_pos (.inr (unheld_unknown filled unheld))

theorem held_access {bound : Option String} (held : Held settings key bound) :
    restAccess settings key tenantId = enforceTenantAccess bound tenantId := by
  cases key with
  | none =>
      obtain ⟨own, same, _⟩ := held
      cases same
  | some own =>
      obtain ⟨filled, known, binds⟩ := held_known held
      have passes : requireApiKey settings (some own) = .ok () := by
        rw [requireApiKey]
        split
        · rfl
        · exact if_neg (by simp [filled, known])
      rw [restAccess, passes, getBoundTenant, if_neg filled, binds]
      rfl

theorem enforce_iff {bound : Option String} :
    (enforceTenantAccess bound tenantId = .ok () ↔ ∀ tenant ∈ bound, tenant = tenantId) ∧
    (enforceTenantAccess bound tenantId =
      .error (.failure 403 "API key is not authorized for this tenant.") ↔
      ∃ tenant ∈ bound, tenant ≠ tenantId) ∧
    enforceTenantAccess bound tenantId ≠ .error (.failure 401 "Invalid or missing API key.") := by
  cases bound with
  | none => simp [enforceTenantAccess, TenantIsolation.enforceTenantAccess, Except.mapError]
  | some tenant =>
      by_cases own : tenant = tenantId
      · simp [enforceTenantAccess, TenantIsolation.enforceTenantAccess, Except.mapError, own]
      · simp [enforceTenantAccess, TenantIsolation.enforceTenantAccess, Except.mapError, own]

theorem held_authorize {bound : Option String} (closed : settings.authEnabled = true)
    (held : Held settings key bound) :
    authorizeKey settings key tenantId = true ↔ ∀ tenant ∈ bound, tenant = tenantId := by
  unfold authorizeKey
  rw [if_neg (by simp [closed])]
  cases key with
  | none =>
      obtain ⟨own, same, _⟩ := held
      cases same
  | some own =>
      obtain ⟨filled, known, binds⟩ := held_known held
      simp only [known, binds]
      cases bound <;> simp [filled]

theorem unheld_authorize (closed : settings.authEnabled = true)
    (unheld : ∀ bound, ¬Held settings key bound) :
    authorizeKey settings key tenantId = false := by
  unfold authorizeKey
  rw [if_neg (by simp [closed])]
  cases key with
  | none => rfl
  | some own =>
      by_cases filled : own = ""
      · simp [filled]
      · simp [unheld_unknown filled unheld]

theorem keys_admit_alike (settings : Settings) (key : Option String) (tenantId : String) :
    (authorizeKey settings key tenantId = true ↔ Entitled settings key tenantId) ∧
    (restAccess settings key tenantId = .ok () ↔ Entitled settings key tenantId) ∧
    (restAccess settings key tenantId = .error (.failure 401 "Invalid or missing API key.") ↔
      ¬Open settings ∧ ∀ bound, ¬Held settings key bound) ∧
    (restAccess settings key tenantId =
        .error (.failure 403 "API key is not authorized for this tenant.") ↔
      ∃ tenant, Held settings key (some tenant) ∧ tenant ≠ tenantId) := by
  rw [entitled_iff]
  by_cases opened : Open settings
  · have disabled := auth_enabled_iff.mpr opened
    have nobody : ∀ bound, ¬Held settings key bound := by
      rintro bound ⟨own, _, _, last⟩
      exact open_nameless opened last
    have passes : restAccess settings key tenantId = .ok () := by
      unfold restAccess requireApiKey
      rw [if_pos disabled, open_unbound opened]
      rfl
    simp [authorizeKey, disabled, opened, passes, nobody]
  · have closed : settings.authEnabled = true := by
      rw [← Bool.not_eq_false, auth_enabled_iff]
      exact opened
    by_cases holds : ∃ bound, Held settings key bound
    · obtain ⟨bound, held⟩ := holds
      have only : ∀ other, Held settings key other ↔ other = bound :=
        fun other => ⟨fun again => held_unique again held, fun same => same ▸ held⟩
      rw [held_authorize closed held, held_access held, enforce_iff.1, enforce_iff.2.1]
      simp [opened, only, enforce_iff.2.2, eq_comm]
    · rw [not_exists] at holds
      have refuses : restAccess settings key tenantId =
          .error (.failure 401 "Invalid or missing API key.") := by
        rw [restAccess, closed_unheld closed holds]
        rfl
      simp [unheld_authorize closed holds, refuses, opened, holds]

end Access

/-- Both gateways let the same callers in, and REST says why it does not. -/
theorem gateways_admit_alike (settings : Settings) (metadata : List (String × String))
    (tenantId : String) :
    (authorize settings metadata tenantId = true ↔
      Entitled settings (metadataKey metadata) tenantId) ∧
    (restAccess settings (metadataKey metadata) tenantId = .ok () ↔
      Entitled settings (metadataKey metadata) tenantId) ∧
    (restAccess settings (metadataKey metadata) tenantId =
        .error (.failure 401 "Invalid or missing API key.") ↔
      ¬Open settings ∧ ∀ bound, ¬Held settings (metadataKey metadata) bound) ∧
    (restAccess settings (metadataKey metadata) tenantId =
        .error (.failure 403 "API key is not authorized for this tenant.") ↔
      ∃ tenant, Held settings (metadataKey metadata) (some tenant) ∧ tenant ≠ tenantId) :=
  keys_admit_alike settings (metadataKey metadata) tenantId

end SagaMind.GatewayAccess

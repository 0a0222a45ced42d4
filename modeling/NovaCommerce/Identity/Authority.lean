import NovaCommerce.Identity.Runs

/-!
# The authority of a principal

Permissions are united over the roles of an account; its data scope is the widest of those roles, looked up by role code.

* `Assignment` : a role that was given, and until when; `Assignment.Current` : it has not expired;
* `Last` : no later role has the same code. Only such a role is seen when scopes are looked up (`lookup_scope`);
* `Widest` : the widest scope among some roles; `buildPrincipal_widest`, `buildPrincipal_floor` : what the account gets;
* `authority_iff` : exactly when that is what the current assignments grant, whatever their order is, and no less with one more.
-/

namespace NovaCommerce.Identity

/-- The scope of a role: nothing, when its value cannot be read. -/
def Role.scope (r : Role) : DataScope := (DataScope.parse? r.dataScope).getD .none

/-- A role that an account was given, and until when. -/
structure Assignment where
  role : Role
  expiresAt : Option Time := none

/-- The assignment has not expired. -/
def Assignment.Current (a : Assignment) (now : Time) : Prop := ∀ t ∈ a.expiresAt, now < t

/-- The assignments of an account. -/
def Db.assignmentsOf (d : Db) (userId : Nat) : List Assignment :=
  (d.userRoles.select fun link => link.userId = userId).filterMap fun link =>
    (d.roles.get? link.2.roleId).map fun role => { role, expiresAt := link.2.expiresAt }

/-- Their roles are read, and nothing else of them. -/
theorem rolesOf_eq (d : Db) (userId : Nat) : d.rolesOf userId = (d.assignmentsOf userId).map Assignment.role := by
  unfold Db.rolesOf Db.assignmentsOf
  rw [List.map_filterMap]
  refine List.filterMap_congr fun link _ => ?_
  cases d.roles.get? link.2.roleId <;> rfl

/-! ## Scopes -/

theorem rank_injective {s s' : DataScope} (h : s.rank = s'.rank) : s = s' := by
  cases s <;> cases s' <;> first | rfl | cases h

theorem rank_le_none {s : DataScope} (h : s.rank ≤ DataScope.none.rank) : s = .none :=
  rank_injective (Nat.le_antisymm h (Nat.zero_le _))

/-- The widest scope among some roles, and nothing when there are none. -/
structure Widest (P : Role → Prop) (s : DataScope) : Prop where
  bound : ∀ r, P r → r.scope.rank ≤ s.rank
  attained : s = .none ∨ ∃ r, P r ∧ r.scope = s

theorem Widest.unique {P : Role → Prop} {s s' : DataScope} (h : Widest P s) (h' : Widest P s') : s = s' := by
  have hle : ∀ {s s'}, Widest P s → Widest P s' → s.rank ≤ s'.rank := by
    intro s s' h h'
    rcases h.attained with rfl | ⟨r, hr, rfl⟩
    · exact Nat.zero_le _
    · exact h'.bound r hr
  exact rank_injective (Nat.le_antisymm (hle h h') (hle h' h))

/-- What is the widest among some roles is no wider than what is the widest among others. -/
theorem Widest.rank_le_iff {P Q : Role → Prop} {s s' : DataScope} (hs : Widest P s) (hs' : Widest Q s')
    (hne : ∃ r, Q r) :
    s.rank ≤ s'.rank ↔ ∀ r, P r → ∃ q, Q q ∧ r.scope.rank ≤ q.scope.rank := by
  constructor
  · intro hle r hr
    have hr' := le_trans (hs.bound r hr) hle
    rcases hs'.attained with rfl | ⟨q, hq, rfl⟩
    · obtain ⟨q, hq⟩ := hne
      exact ⟨q, hq, le_trans hr' (Nat.zero_le _)⟩
    · exact ⟨q, hq, hr'⟩
  · intro h
    rcases hs.attained with rfl | ⟨r, hr, rfl⟩
    · exact Nat.zero_le _
    · obtain ⟨q, hq, hle⟩ := h r hr
      exact le_trans hle (hs'.bound q hq)

/-- The same scope is the widest among others exactly if each side is covered by the other. -/
theorem Widest.iff_covers {P Q : Role → Prop} {s : DataScope} (hs : Widest P s) (hP : ∃ r, P r) (hQ : ∃ r, Q r) :
    Widest Q s ↔ (∀ r, P r → ∃ q, Q q ∧ r.scope.rank ≤ q.scope.rank) ∧ ∀ q, Q q → ∃ r, P r ∧
      q.scope.rank ≤ r.scope.rank := by
  constructor
  · exact fun hs' => ⟨(hs.rank_le_iff hs' hQ).mp le_rfl, (hs'.rank_le_iff hs hP).mp le_rfl⟩
  · rintro ⟨hcovered, hcovers⟩
    have hbound : ∀ q, Q q → q.scope.rank ≤ s.rank := by
      intro q hq
      obtain ⟨r, hr, hle⟩ := hcovers q hq
      exact le_trans hle (hs.bound r hr)
    refine ⟨hbound, ?_⟩
    rcases hs.attained with rfl | ⟨r, hr, rfl⟩
    · exact .inl rfl
    · obtain ⟨q, hq, hle⟩ := hcovered r hr
      exact .inr ⟨q, hq, rank_injective (Nat.le_antisymm (hbound q hq) hle)⟩

/-! ## What is looked up -/

/-- The role is the last one of its code. -/
def Last (roles : List Role) (r : Role) : Prop := ∃ before after, roles = before ++ r :: after ∧ ∀ b ∈ after,
    b.code ≠ r.code

theorem Last.mem {roles : List Role} {r : Role} (h : Last roles r) : r ∈ roles := by
  obtain ⟨before, after, rfl, -⟩ := h
  exact List.mem_append_right _ List.mem_cons_self

theorem last_concat {roles : List Role} {last r : Role} : Last (roles ++ [last]) r ↔ r = last ∨
    (Last roles r ∧ r.code ≠ last.code) := by
  constructor
  · rintro ⟨before, after, heq, hafter⟩
    rcases List.eq_nil_or_concat after with rfl | ⟨after, l, rfl⟩
    · obtain ⟨-, h⟩ := List.append_inj' heq rfl
      exact .inl (List.cons.inj h).1.symm
    · rw [List.concat_eq_append, ← List.cons_append, ← List.append_assoc] at heq
      obtain ⟨rfl, h⟩ := List.append_inj' heq rfl
      obtain rfl := (List.cons.inj h).1
      rw [List.concat_eq_append] at hafter
      refine .inr ⟨⟨before, after, rfl, fun b hb => hafter b (List.mem_append_left _ hb)⟩, ?_⟩
      exact (hafter last (List.mem_append_right _ (List.mem_singleton.mpr rfl))).symm
  · rintro (rfl | ⟨⟨before, after, rfl, hafter⟩, hne⟩)
    · exact ⟨roles, [], rfl, fun b hb => nomatch hb⟩
    · refine ⟨before, after ++ [last], by simp, fun b hb => ?_⟩
      rcases List.mem_append.mp hb with hb | hb
      · exact hafter b hb
      · rw [List.mem_singleton.mp hb]
        exact hne.symm

/-- The scope that is found for a code is that of the last role of this code. -/
theorem lookup_scope (code raw : String) (roles : List Role) :
    (roles.map fun role => (role.code, role.dataScope)).reverse.lookup code = some raw ↔
      ∃ r, Last roles r ∧ r.code = code ∧ r.dataScope = raw := by
  induction roles using List.reverseRecOn with
  | nil =>
    constructor
    · intro h
      cases h
    · rintro ⟨r, hr, -⟩
      exact absurd hr.mem List.not_mem_nil
  | append_singleton roles last ih =>
    rw [List.map_append, List.reverse_append, List.map_singleton, List.reverse_singleton, List.singleton_append,
      List.lookup_cons]
    simp only [last_concat]
    by_cases hcode : code = last.code
    · subst hcode
      rw [beq_self_eq_true]
      dsimp only
      rw [Option.some.injEq]
      constructor
      · exact fun h => ⟨last, .inl rfl, rfl, h⟩
      · rintro ⟨r, rfl | ⟨-, hne⟩, hr, hraw⟩
        · exact hraw
        · exact absurd hr hne
    · rw [beq_eq_false_iff_ne.mpr hcode]
      dsimp only
      rw [ih]
      constructor
      · rintro ⟨r, hr, rfl, hraw⟩
        exact ⟨r, .inr ⟨hr, hcode⟩, rfl, hraw⟩
      · rintro ⟨r, rfl | ⟨hr, -⟩, hrc, hraw⟩
        · exact absurd hrc.symm hcode
        · exact ⟨r, hr, hrc, hraw⟩

theorem exists_last {roles : List Role} {r : Role} (hr : r ∈ roles) : ∃ l, Last roles l ∧ l.code = r.code := by
  induction roles using List.reverseRecOn with
  | nil => exact nomatch hr
  | append_singleton roles last ih =>
    by_cases hcode : r.code = last.code
    · exact ⟨last, last_concat.mpr (.inl rfl), hcode.symm⟩
    · rcases List.mem_append.mp hr with hr | hr
      · obtain ⟨l, hl, heq⟩ := ih hr
        exact ⟨l, last_concat.mpr (.inr ⟨hl, fun h => hcode (heq.symm.trans h)⟩), heq⟩
      · exact absurd (congrArg Role.code (List.mem_singleton.mp hr)) hcode

theorem exists_last_of_ne_nil {roles : List Role} (h : roles ≠ []) : ∃ r, Last roles r := by
  obtain ⟨r, hr⟩ := List.exists_mem_of_ne_nil roles h
  obtain ⟨l, hl, -⟩ := exists_last hr
  exact ⟨l, hl⟩

/-! ## What an account gets -/

/-- The widest scope that a list of codes finds is kept while the list is gone through. -/
theorem foldl_widest (scopes : String → Option DataScope) : ∀ (codes : List String) (start : DataScope),
    let s := codes.foldl (fun widest code => match scopes code with
      | some candidate => if widest.rank < candidate.rank then candidate else widest
      | none => widest) start
    start.rank ≤ s.rank ∧ (∀ code ∈ codes, ∀ candidate ∈ scopes code, candidate.rank ≤ s.rank) ∧
      (s = start ∨ ∃ code ∈ codes, scopes code = some s) := by
  intro codes
  induction codes with
  | nil => exact fun start => ⟨le_rfl, (fun _ h => nomatch h), .inl rfl⟩
  | cons code codes ih =>
    intro start
    rw [List.foldl_cons]
    have hfirst : ∃ next : DataScope, (match scopes code with
        | some candidate => if start.rank < candidate.rank then candidate else start
        | none => start) = next ∧ start.rank ≤ next.rank ∧ (∀ candidate ∈ scopes code, candidate.rank ≤ next.rank) ∧
        (next = start ∨ scopes code = some next) := by
      cases scopes code with
      | none => exact ⟨start, rfl, le_rfl, (fun _ h => nomatch h), .inl rfl⟩
      | some candidate =>
        dsimp only
        split_ifs with hlt
        · refine ⟨candidate, rfl, hlt.le, fun c hc => ?_, .inr rfl⟩
          cases hc
          exact le_rfl
        · refine ⟨start, rfl, le_rfl, fun c hc => ?_, .inl rfl⟩
          cases hc
          exact not_lt.mp hlt
    obtain ⟨next, hnext, hstart, hbound, hattained⟩ := hfirst
    rw [hnext]
    obtain ⟨hle, hrest, hfound⟩ := ih next
    refine ⟨le_trans hstart hle, fun c hc candidate hcandidate => ?_, ?_⟩
    · rcases List.mem_cons.mp hc with rfl | hc
      · exact le_trans (hbound candidate hcandidate) hle
      · exact hrest c hc candidate hcandidate
    · rcases hfound with heq | ⟨c, hc, hs⟩
      · rw [heq]
        exact hattained.imp id fun h => ⟨code, List.mem_cons_self, h⟩
      · exact .inr ⟨c, List.mem_cons_of_mem _ hc, hs⟩

/-- No scope was set for the account itself. -/
def User.Unscoped (user : User) : Prop := user.dataScopeOverride.getD "" = ""

/-- What an account without a role may see. -/
def User.scopeFloor (user : User) : DataScope := if user.isStaff = true then .none else .self

theorem buildPrincipal_scope {user : User} (unscoped : user.Unscoped) (userId : Nat) (roles : List Role)
    (sessionId : String) :
    (buildPrincipal userId user roles sessionId).dataScope = resolveDataScope (roles.map Role.code)
      (roles.map fun role => (role.code, role.dataScope)).reverse
        (buildPrincipal.consumerFloor user (roles.map Role.code)) := by
  unfold User.Unscoped at unscoped
  cases hoverride : user.dataScopeOverride with
  | none => simp only [buildPrincipal, hoverride]
  | some raw =>
    rw [hoverride] at unscoped
    simp only [buildPrincipal, hoverride]
    rw [if_pos (show raw = "" from unscoped)]

theorem buildPrincipal_floor {user : User} (unscoped : user.Unscoped) (userId : Nat) (sessionId : String) :
    (buildPrincipal userId user [] sessionId).dataScope = user.scopeFloor := by
  rw [buildPrincipal_scope unscoped]
  unfold buildPrincipal.consumerFloor User.scopeFloor
  cases user.isStaff <;> decide

/-- An account with roles gets the widest scope of those that are the last of their code. -/
theorem buildPrincipal_widest {user : User} (unscoped : user.Unscoped) (userId : Nat) {roles : List Role}
    (hne : roles ≠ [])
    (sessionId : String) : Widest (Last roles) (buildPrincipal userId user roles sessionId).dataScope := by
  have hcodes : roles.map Role.code ≠ [] := fun h => hne (List.map_eq_nil_iff.mp h)
  rw [buildPrincipal_scope unscoped, buildPrincipal.consumerFloor, if_neg fun h => hcodes h.1]
  show Widest (Last roles) (resolveDataScope.widest _ _)
  unfold resolveDataScope.widest
  obtain ⟨-, hbound, hfound⟩ := foldl_widest
    (fun code => ((roles.map fun role => (role.code, role.dataScope)).reverse.lookup code).bind DataScope.parse?)
    (roles.map Role.code)
    .none
  refine ⟨fun r hr => ?_, hfound.imp id ?_⟩
  · have hlookup := (lookup_scope r.code r.dataScope roles).mpr ⟨r, hr, rfl, rfl⟩
    unfold Role.scope
    cases hparse : DataScope.parse? r.dataScope with
    | none => exact Nat.zero_le _
    | some candidate =>
      refine hbound r.code (List.mem_map.mpr ⟨r, hr.mem, rfl⟩) candidate ?_
      show ((roles.map fun role => (role.code, role.dataScope)).reverse.lookup r.code).bind DataScope.parse? =
        some candidate
      rw [hlookup]
      exact hparse
  · rintro ⟨code, -, hs⟩
    obtain ⟨raw, hraw, hparse⟩ := Option.bind_eq_some_iff.mp hs
    obtain ⟨r, hr, -, rfl⟩ := (lookup_scope code raw roles).mp hraw
    refine ⟨r, hr, ?_⟩
    unfold Role.scope
    rw [hparse]
    rfl

theorem mem_permissions {user : User} {userId : Nat} {given : List Assignment} {sessionId : String} {code : String} :
    code ∈ (buildPrincipal userId user (given.map Assignment.role) sessionId).permissions ↔ ∃ a ∈ given,
      code ∈ a.role.permissions := by
  show code ∈ ((given.map Assignment.role).flatMap Role.permissions).dedup ↔ _
  rw [List.mem_dedup, List.mem_flatMap]
  constructor
  · rintro ⟨r, hr, hcode⟩
    obtain ⟨a, ha, rfl⟩ := List.mem_map.mp hr
    exact ⟨a, ha, hcode⟩
  · rintro ⟨a, ha, hcode⟩
    exact ⟨a.role, List.mem_map.mpr ⟨a, ha, rfl⟩, hcode⟩

/-! ## What it should get -/

/-- A role that a current assignment grants. -/
def Granted (given : List Assignment) (now : Time) (r : Role) : Prop := ∃ a ∈ given, a.Current now ∧ a.role = r

/-- The scope that the current assignments grant: the widest of their roles, or the floor when there are none. -/
def Entitled (user : User) (given : List Assignment) (now : Time) (s : DataScope) : Prop :=
  ((∃ r, Granted given now r) → Widest (Granted given now) s) ∧ ((¬ ∃ r, Granted given now r) → s = user.scopeFloor)

section

variable {user : User} (unscoped : user.Unscoped) (userId : Nat) (sessionId : String) (now : Time)

theorem permissions_iff (given : List Assignment) :
    (∀ code, code ∈ (buildPrincipal userId user (given.map Assignment.role) sessionId).permissions ↔
        ∃ r, Granted given now r ∧ code ∈ r.permissions) ↔
      ∀ a ∈ given, ¬ a.Current now → ∀ code ∈ a.role.permissions, ∃ r, Granted given now r ∧
        code ∈ r.permissions := by
  simp only [mem_permissions]
  constructor
  · exact fun h a ha _ code hcode => (h code).mp ⟨a, ha, hcode⟩
  · intro h code
    constructor
    · rintro ⟨a, ha, hcode⟩
      by_cases hcurrent : a.Current now
      · exact ⟨a.role, ⟨a, ha, hcurrent, rfl⟩, hcode⟩
      · exact h a ha hcurrent code hcode
    · rintro ⟨_, ⟨a, ha, -, rfl⟩, hcode⟩
      exact ⟨a, ha, hcode⟩

include unscoped

theorem scope_entitled_iff (given : List Assignment) :
    Entitled user given now (buildPrincipal userId user (given.map Assignment.role) sessionId).dataScope ↔
      ((∃ r, Granted given now r) →
        (∀ r, Last (given.map Assignment.role) r → ∃ g, Granted given now g ∧ r.scope.rank ≤ g.scope.rank) ∧
        ∀ g, Granted given now g → ∃ r, Last (given.map Assignment.role) r ∧ g.scope.rank ≤ r.scope.rank) ∧
      ((¬ ∃ r, Granted given now r) → given = [] ∨ Widest (Last (given.map Assignment.role)) user.scopeFloor) := by
  unfold Entitled
  refine and_congr (forall_congr' fun hgranted => ?_) (forall_congr' fun _ => ?_)
  · have hne : given.map Assignment.role ≠ [] := by
      obtain ⟨_, a, ha, -⟩ := hgranted
      exact List.ne_nil_of_mem (List.mem_map.mpr ⟨a, ha, rfl⟩)
    exact (buildPrincipal_widest unscoped userId hne sessionId).iff_covers (exists_last_of_ne_nil hne) hgranted
  · by_cases hnil : given = []
    · subst hnil
      exact iff_of_true (buildPrincipal_floor unscoped userId sessionId) (.inl rfl)
    · have hne : given.map Assignment.role ≠ [] := fun h => hnil (List.map_eq_nil_iff.mp h)
      have hwidest := buildPrincipal_widest unscoped userId hne sessionId
      constructor
      · exact fun h => .inr (h ▸ hwidest)
      · exact fun h => hwidest.unique (h.resolve_left hnil)

/-- The scope depends on no order exactly if some code has the widest scope in all of its roles. -/
theorem scope_order_iff (given : List Assignment) :
    (∀ given' : List Assignment, given'.Perm given →
      (buildPrincipal userId user (given'.map Assignment.role) sessionId).dataScope =
        (buildPrincipal userId user (given.map Assignment.role) sessionId).dataScope) ↔
      given = [] ∨ ∃ a ∈ given, ∀ b ∈ given, b.role.code = a.role.code → ∀ c ∈ given,
        c.role.scope.rank ≤ b.role.scope.rank := by
  constructor
  · intro h
    by_cases hnil : given = []
    · exact .inl hnil
    refine .inr ?_
    -- by falling rank, every code keeps its narrowest role; by rising rank, the widest role of all is kept
    let falling := given.insertionSort fun a b => b.role.scope.rank ≤ a.role.scope.rank
    have hperm : falling.Perm given := List.perm_insertionSort _ given
    have hsorted : falling.Pairwise fun a b => b.role.scope.rank ≤ a.role.scope.rank := by
      have : Std.Total fun a b : Assignment => b.role.scope.rank ≤ a.role.scope.rank := ⟨fun a b => le_total _ _⟩
      have : IsTrans Assignment fun a b => b.role.scope.rank ≤ a.role.scope.rank :=
        ⟨fun a b c hab hbc => le_trans hbc hab⟩
      exact List.pairwise_insertionSort _ given
    have hne : ∀ {given' : List Assignment}, given'.Perm given → given'.map Assignment.role ≠ [] :=
      fun hp heq => hnil (List.Perm.nil_eq ((List.map_eq_nil_iff.mp heq) ▸ hp)).symm
    have hfalling := buildPrincipal_widest unscoped userId (hne hperm) sessionId
    have hrising := buildPrincipal_widest unscoped userId (hne ((List.reverse_perm falling).trans hperm)) sessionId
    rw [h _ hperm] at hfalling
    rw [h _ ((List.reverse_perm falling).trans hperm)] at hrising
    generalize (buildPrincipal userId user (given.map Assignment.role) sessionId).dataScope = s at hfalling hrising
    have hall : ∀ c ∈ given, c.role.scope.rank ≤ s.rank := by
      intro c hc
      have hc' : c ∈ falling := hperm.mem_iff.mpr hc
      cases hcases : falling with
      | nil =>
        rw [hcases] at hc'
        exact absurd hc' List.not_mem_nil
      | cons first rest =>
        rw [hcases] at hc' hsorted hrising
        have hfirst : c.role.scope.rank ≤ first.role.scope.rank := by
          rcases List.mem_cons.mp hc' with rfl | hc'
          · exact le_rfl
          · exact List.rel_of_pairwise_cons hsorted hc'
        refine le_trans hfirst (hrising.bound first.role ?_)
        rw [List.reverse_cons, List.map_append, List.map_singleton]
        exact last_concat.mpr (.inl rfl)
    rcases hfalling.attained with rfl | ⟨r, ⟨before, after, heq, hafter⟩, rfl⟩
    · obtain ⟨a, ha⟩ := List.exists_mem_of_ne_nil given hnil
      exact ⟨a, ha, fun b _ _ c hc => le_trans (hall c hc) (Nat.zero_le _)⟩
    · obtain ⟨before, rest, hsplit, rfl, hrest⟩ := List.map_eq_append_iff.mp heq
      obtain ⟨a, after, rfl, rfl, rfl⟩ := List.map_eq_cons_iff.mp hrest
      have hmem : a ∈ given := hperm.mem_iff.mp (hsplit ▸ List.mem_append_right _ List.mem_cons_self)
      refine ⟨a, hmem, fun b hb hcode c hc => le_trans (hall c hc) ?_⟩
      have hb' := hperm.mem_iff.mpr hb
      rw [hsplit] at hb' hsorted
      rcases List.mem_append.mp hb' with hb' | hb'
      · exact (List.pairwise_append.mp hsorted).2.2 b hb' a List.mem_cons_self
      · rcases List.mem_cons.mp hb' with rfl | hb'
        · exact le_rfl
        · exact absurd hcode (hafter b.role (List.mem_map.mpr ⟨b, hb', rfl⟩))
  · rintro (rfl | ⟨a, ha, hcode⟩) given' hperm
    · rw [hperm.eq_nil]
    · -- in every order the role that is kept of this code has the widest scope
      have hscope : ∀ {given' : List Assignment}, given'.Perm given →
          (buildPrincipal userId user (given'.map Assignment.role) sessionId).dataScope = a.role.scope := by
        intro given' hperm
        have ha' : a.role ∈ given'.map Assignment.role := List.mem_map.mpr ⟨a, hperm.mem_iff.mpr ha, rfl⟩
        have hwidest := buildPrincipal_widest unscoped userId (List.ne_nil_of_mem ha') sessionId
        obtain ⟨l, hl, hlcode⟩ := exists_last ha'
        obtain ⟨b, hb, rfl⟩ := List.mem_map.mp hl.mem
        have hb' := hperm.mem_iff.mp hb
        have hle : ∀ r, Last (given'.map Assignment.role) r → r.scope.rank ≤ a.role.scope.rank := by
          intro r hr
          obtain ⟨c, hc, rfl⟩ := List.mem_map.mp hr.mem
          exact hcode a ha rfl c (hperm.mem_iff.mp hc)
        refine hwidest.unique ⟨hle, .inr ⟨b.role, hl, rank_injective ?_⟩⟩
        exact Nat.le_antisymm (hle b.role hl) (hcode b hb' hlcode a ha)
      exact (hscope hperm).trans (hscope (.refl _)).symm

/-- One more assignment narrows nothing exactly if what it hides is no wider than something that is kept. -/
theorem scope_added_iff (before after : List Assignment) (added : Assignment) :
    (buildPrincipal userId user ((before ++ after).map Assignment.role) sessionId).dataScope.rank ≤
        (buildPrincipal userId user ((before ++ added :: after).map Assignment.role) sessionId).dataScope.rank ↔
      (before ++ after = [] → user.scopeFloor.rank ≤ added.role.scope.rank) ∧
      ∀ r, Last ((before ++ after).map Assignment.role) r →
        ¬ Last ((before ++ added :: after).map Assignment.role) r →
        ∃ q, Last ((before ++ added :: after).map Assignment.role) q ∧ r.scope.rank ≤ q.scope.rank := by
  have hne' : (before ++ added :: after).map Assignment.role ≠ [] :=
    List.ne_nil_of_mem (List.mem_map.mpr ⟨added, List.mem_append_right _ List.mem_cons_self, rfl⟩)
  have hwidest' := buildPrincipal_widest unscoped userId hne' sessionId
  by_cases hnil : before ++ after = []
  · obtain ⟨rfl, rfl⟩ := List.append_eq_nil_iff.mp hnil
    have hscope : (buildPrincipal userId user [added.role] sessionId).dataScope = added.role.scope := by
      have honly : ∀ r, Last [added.role] r → r = added.role := fun r hr => List.mem_singleton.mp hr.mem
      refine (buildPrincipal_widest unscoped userId (List.cons_ne_nil _ _) sessionId).unique
        ⟨fun r hr => ?_, .inr ⟨added.role, ?_, rfl⟩⟩
      · rw [honly r hr]
      · exact ⟨[], [], rfl, fun b hb => absurd hb List.not_mem_nil⟩
    show (buildPrincipal userId user [] sessionId).dataScope.rank ≤
      (buildPrincipal userId user [added.role] sessionId).dataScope.rank ↔ _
    rw [buildPrincipal_floor unscoped, hscope]
    refine ⟨fun h => ⟨fun _ => h, fun r hr => ?_⟩, fun h => h.1 hnil⟩
    exact absurd hr.mem List.not_mem_nil
  · have hne : (before ++ after).map Assignment.role ≠ [] := fun h => hnil (List.map_eq_nil_iff.mp h)
    rw [(buildPrincipal_widest unscoped userId hne sessionId).rank_le_iff hwidest' (exists_last_of_ne_nil hne')]
    constructor
    · exact fun h => ⟨fun heq => absurd heq hnil, fun r hr _ => h r hr⟩
    · rintro ⟨-, h⟩ r hr
      by_cases hkept : Last ((before ++ added :: after).map Assignment.role) r
      · exact ⟨r, hkept, le_rfl⟩
      · exact h r hr hkept

/-- When the authority of an account without a scope of its own is that of its current assignments, in whatever order they are read,
and no less with one more. -/
theorem authority_iff (before after : List Assignment) (added : Assignment) :
    let given := before ++ after
    let principal := fun given : List Assignment => buildPrincipal userId user (given.map Assignment.role) sessionId
    ((∀ code, code ∈ (principal given).permissions ↔ ∃ r, Granted given now r ∧ code ∈ r.permissions) ↔
      ∀ a ∈ given, ¬ a.Current now → ∀ code ∈ a.role.permissions, ∃ r, Granted given now r ∧ code ∈ r.permissions) ∧
    (Entitled user given now (principal given).dataScope ↔
      ((∃ r, Granted given now r) →
        (∀ r, Last (given.map Assignment.role) r → ∃ g, Granted given now g ∧ r.scope.rank ≤ g.scope.rank) ∧
        ∀ g, Granted given now g → ∃ r, Last (given.map Assignment.role) r ∧ g.scope.rank ≤ r.scope.rank) ∧
      ((¬ ∃ r, Granted given now r) → given = [] ∨ Widest (Last (given.map Assignment.role)) user.scopeFloor)) ∧
    (∀ given' : List Assignment, given'.Perm given → ∀ code, code ∈ (principal given').permissions ↔
      code ∈ (principal given).permissions) ∧
    ((∀ given' : List Assignment, given'.Perm given → (principal given').dataScope = (principal given).dataScope) ↔
      given = [] ∨ ∃ a ∈ given, ∀ b ∈ given, b.role.code = a.role.code → ∀ c ∈ given,
        c.role.scope.rank ≤ b.role.scope.rank) ∧
    (∀ code ∈ (principal given).permissions, code ∈ (principal (before ++ added :: after)).permissions) ∧
    ((principal given).dataScope.rank ≤ (principal (before ++ added :: after)).dataScope.rank ↔
      (given = [] → user.scopeFloor.rank ≤ added.role.scope.rank) ∧
      ∀ r, Last (given.map Assignment.role) r → ¬ Last ((before ++ added :: after).map Assignment.role) r →
        ∃ q, Last ((before ++ added :: after).map Assignment.role) q ∧ r.scope.rank ≤ q.scope.rank) := by
  intro given principal
  refine ⟨permissions_iff userId sessionId now given, scope_entitled_iff unscoped userId sessionId now given, ?_,
    scope_order_iff unscoped userId sessionId given, ?_, scope_added_iff unscoped userId sessionId before after added⟩
  · intro given' hperm code
    show code ∈ (buildPrincipal _ _ _ _).permissions ↔ code ∈ (buildPrincipal _ _ _ _).permissions
    simp only [mem_permissions, hperm.mem_iff]
  · intro code hcode
    obtain ⟨a, ha, hcode⟩ := mem_permissions.mp hcode
    refine mem_permissions.mpr ⟨a, ?_, hcode⟩
    rcases List.mem_append.mp ha with ha | ha
    · exact List.mem_append_left _ ha
    · exact List.mem_append_right _ (List.mem_cons_of_mem _ ha)

end

/-! ## Samples -/

/-- A member of the staff, and the roles that two merchants gave under one code. -/
def sampleClerk : User where
  username := "grace"
  passwordHash := samplePasswordHash
  userType := .staff

def sampleSupport : Assignment where
  role := { code := "CUSTOMER_SERVICE", dataScope := "MERCHANT", permissions := ["order:read", "after_sale:review"] }

def sampleViewer : Assignment where
  role := { code := "CUSTOMER_SERVICE", dataScope := "SELF", permissions := ["order:read"] }

/-- A role that ended the day before. -/
def sampleEnded : Assignment where
  role := { code := "FINANCE", dataScope := "SELF", permissions := ["refund:execute"] }
  expiresAt := some (sampleMorning - 86400000)

/-- With one current role the authority is what it grants, and a role of another code narrows nothing. -/
theorem authority_sample :
    let principal := fun given : List Assignment => buildPrincipal 7 sampleClerk
      (given.map Assignment.role) "7-session"
    (∀ code, code ∈ (principal [sampleSupport]).permissions ↔
      ∃ r, Granted [sampleSupport] sampleMorning r ∧ code ∈ r.permissions) ∧
    Entitled sampleClerk [sampleSupport] sampleMorning (principal [sampleSupport]).dataScope ∧
    (principal [sampleSupport]).dataScope.rank ≤ (principal [sampleSupport, sampleEnded]).dataScope.rank := by
  have hcurrent : sampleSupport.Current sampleMorning := fun t ht => nomatch ht
  have hgranted : Granted [sampleSupport] sampleMorning sampleSupport.role :=
    ⟨sampleSupport, List.mem_singleton.mpr rfl, hcurrent, rfl⟩
  have hlast : Last [sampleSupport.role] sampleSupport.role := ⟨[], [], rfl, fun b hb => absurd hb List.not_mem_nil⟩
  obtain ⟨hpermissions, hscope, -, -, -, hadded⟩ :=
    authority_iff (show sampleClerk.Unscoped from rfl) 7 "7-session" sampleMorning [sampleSupport] [] sampleEnded
  refine ⟨hpermissions.mpr fun a ha hexpired => ?_, hscope.mpr ⟨fun _ => ⟨fun r hr => ?_, fun g hg => ?_⟩,
    fun hnone => ?_⟩,
    hadded.mpr ⟨fun hnil => ?_, fun r hr hhidden => ?_⟩⟩
  · rw [List.mem_singleton.mp ha] at hexpired
    exact absurd hcurrent hexpired
  · rw [List.mem_singleton.mp hr.mem]
    exact ⟨_, hgranted, le_rfl⟩
  · obtain ⟨a, ha, -, rfl⟩ := hg
    rw [List.mem_singleton.mp ha]
    exact ⟨_, hlast, le_rfl⟩
  · exact absurd ⟨_, hgranted⟩ hnone
  · cases hnil
  · rw [List.mem_singleton.mp hr.mem] at hhidden
    exact absurd (show Last [sampleSupport.role, sampleEnded.role] sampleSupport.role from
      ⟨[], [sampleEnded.role], rfl, fun b hb => by rw [List.mem_singleton.mp hb]; decide⟩) hhidden

/-- A role that has ended still gives its permission; of two roles of one code the later one alone gives its scope, so that the order
decides and the second assignment narrows the scope. -/
theorem authority_not_union :
    let principal := fun given : List Assignment => buildPrincipal 7 sampleClerk
      (given.map Assignment.role) "7-session"
    ¬ (∀ code, code ∈ (principal [sampleSupport, sampleEnded]).permissions ↔
      ∃ r, Granted [sampleSupport, sampleEnded] sampleMorning r ∧ code ∈ r.permissions) ∧
    ¬ Entitled sampleClerk [sampleSupport, sampleViewer] sampleMorning
      (principal [sampleSupport, sampleViewer]).dataScope ∧
    (principal [sampleViewer, sampleSupport]).dataScope ≠ (principal [sampleSupport, sampleViewer]).dataScope ∧
    (principal [sampleSupport, sampleViewer]).dataScope.rank < (principal [sampleSupport]).dataScope.rank := by
  refine ⟨fun h => ?_, fun h => ?_, by decide, by decide⟩
  · obtain ⟨_, ⟨a, ha, hcurrent, rfl⟩, hcode⟩ := (h "refund:execute").mp (by decide)
    rcases List.mem_cons.mp ha with rfl | ha
    · exact absurd hcode (by decide)
    · rw [List.mem_singleton.mp ha] at hcurrent
      exact absurd (hcurrent (sampleMorning - 86400000) rfl) (by decide)
  · have hgranted : Granted [sampleSupport, sampleViewer] sampleMorning sampleSupport.role :=
      ⟨sampleSupport, List.mem_cons_self, (fun t ht => nomatch ht), rfl⟩
    exact absurd ((h.1 ⟨_, hgranted⟩).bound _ hgranted) (by decide)

end NovaCommerce.Identity

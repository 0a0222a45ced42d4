import NovaCommerce.Inventory.Moves
import NovaCommerce.Lib.Interleaving

/-!
# Stock calls side by side

Sessions call the stock operations, each session in one transaction, statement by statement in any order.

* `Post` : one call that went through, `Post.Fits` : on the row as it stood;
* `Ready` : the calls of a session fit whatever the others commit, because their rows are locked (`wp_moveStock`, `safe_stockSession`);
* `reaches_fit` : so what is committed is a sequence of calls, each on the row it found;
* `reserve_never_oversells` : what that means for one position, and for sessions that were refused.
-/

namespace NovaCommerce

open Sql

/-! ## Sessions -/

/-- The operations of the stock. -/
def stockOperations : List StockOperation := [reserveOperation, releaseOperation, deductOperation, returnInOperation]

/-- One call of a stock operation. -/
structure StockMove where
  operation : StockOperation
  request : StockRequest
  now : Time
  known : operation ∈ stockOperations

def runMoves (moves : List StockMove) : Tx Unit :=
  forEach (fun move => moveStock move.operation move.request move.now >>= fun _ => pure ()) moves

/-- A session: its calls in one transaction, undone when one of them raises. -/
def stockSession (moves : List StockMove) : Sql Db RowLock AppError (Except AppError Unit) := answer (transaction (runMoves moves))

/-! ## Calls that went through -/

/-- A call that went through, with the row it held. -/
structure Post where
  operation : StockOperation
  request : StockRequest
  now : Time
  id : Nat
  row : Inventory

def Post.on (p : Post) (d : Db) : Db := d.moved p.operation p.request p.now p.id p.row

/-- The call goes through on a database, and its row is the one that is found there. -/
structure Post.Fits (p : Post) (d : Db) : Prop where
  known : p.operation ∈ stockOperations
  positive : 0 < p.request.quantity
  found : d.inventoryAt p.row.warehouseId p.row.skuId = some (p.id, p.row)
  accepted : p.operation.refusal p.row p.request = none

/-- Calls one after the other. -/
def postAll (posts : List Post) (d : Db) : Db := posts.foldl (fun d p => p.on d) d

/-- Each of the calls fits where it is made. -/
def Fit : List Post → Db → Prop
  | [], _ => True
  | p :: posts, d => p.Fits d ∧ Fit posts (p.on d)

theorem fit_append {posts later : List Post} {d : Db} : Fit (posts ++ later) d ↔ Fit posts d ∧ Fit later (postAll posts d) := by
  induction posts generalizing d with
  | nil => exact ⟨fun h => ⟨trivial, h⟩, fun h => h.2⟩
  | cons p posts ih =>
    show p.Fits d ∧ Fit (posts ++ later) (p.on d) ↔ (p.Fits d ∧ Fit posts (p.on d)) ∧ Fit later (postAll posts (p.on d))
    rw [ih, and_assoc]

theorem postAll_append (posts later : List Post) (d : Db) : postAll (posts ++ later) d = postAll later (postAll posts d) :=
  List.foldl_append

theorem get?_on (p : Post) (d : Db) (id : Nat) : (p.on d).inventories.get? id =
    if id = p.id then (d.inventories.get? id).map (p.operation.write p.request p.row p.now) else d.inventories.get? id :=
  Dict.get?_modify d.inventories p.id id _

/-- A row after the calls depends on that row before them. -/
theorem get?_postAll_congr {posts : List Post} {d d' : Db} {id : Nat} (h : d.inventories.get? id = d'.inventories.get? id) :
    (postAll posts d).inventories.get? id = (postAll posts d').inventories.get? id := by
  induction posts generalizing d d' with
  | nil => exact h
  | cons p posts ih =>
    refine ih ?_
    rw [get?_on, get?_on, h]

theorem get?_postAll_other {posts : List Post} {d : Db} {id : Nat} (h : ∀ p ∈ posts, p.id ≠ id) :
    (postAll posts d).inventories.get? id = d.inventories.get? id := by
  induction posts generalizing d with
  | nil => rfl
  | cons p posts ih =>
    refine (ih fun q hq => h q (List.mem_cons_of_mem _ hq)).trans ?_
    rw [get?_on, if_neg (Ne.symm (h p List.mem_cons_self))]

/-- Positions keep their rows. -/
theorem positions_postAll (posts : List Post) (d : Db) (w s : Nat) :
    ((postAll posts d).inventoryAt w s).map Prod.fst = (d.inventoryAt w s).map Prod.fst := by
  induction posts generalizing d with
  | nil => rfl
  | cons p posts ih =>
    refine (ih (p.on d)).trans ?_
    show ((d.moved _ _ _ _ _).inventoryAt w s).map Prod.fst = _
    rw [inventoryAt_moved, Option.map_map]
    refine congrArg (fun f => (d.inventoryAt w s).map f) (funext fun e => ?_)
    show (if e.1 = p.id then (e.1, _) else e).1 = e.1
    split_ifs <;> rfl

/-! ## What a session relies on -/

/-- While a session holds a row, the others leave it; positions keep their rows. -/
def stockDiscipline : Discipline Db RowLock where
  rely h d d' := (∀ w s, (d'.inventoryAt w s).map Prod.fst = (d.inventoryAt w s).map Prod.fst) ∧
    ∀ id, h (.row (.inventory id)) → d'.inventories.get? id = d.inventories.get? id
  fresh _ _ := True
  rely_refl _ _ := ⟨fun _ _ => rfl, fun _ _ => rfl⟩
  rely_trans hab hbc := ⟨fun w s => (hbc.1 w s).trans (hab.1 w s), fun id hid => (hbc.2 id hid).trans (hab.2 id hid)⟩
  rely_mono himp hab := ⟨hab.1, fun id hid => hab.2 id (himp _ hid)⟩

/-- The calls of a session fit what is committed, and what the others may commit while it holds their rows. -/
structure Ready (h : Lock RowLock → Prop) (posts : List Post) (base : Db) : Prop where
  held : ∀ p ∈ posts, h (.row (.inventory p.id))
  fit : ∀ d, stockDiscipline.rely h base d → Fit posts d

theorem Ready.later {h h' : Lock RowLock → Prop} {posts : List Post} {base d : Db} (hr : Ready h posts base)
    (hh : ∀ l, h l → h' l) (hrely : stockDiscipline.rely h base d) : Ready h' posts d where
  held p hp := hh _ (hr.held p hp)
  fit c hc := hr.fit c (stockDiscipline.rely_trans hrely (stockDiscipline.rely_mono hh hc))

/-- A locked row is still the one that was read. -/
theorem Ready.add {h : Lock RowLock → Prop} {posts : List Post} {d : Db} (hr : Ready h posts d) {p : Post}
    (hlocked : h (.row (.inventory p.id))) (hp : p.Fits (postAll posts d)) : Ready h (posts ++ [p]) d where
  held q hq := by
    rcases List.mem_append.mp hq with hq | hq
    · exact hr.held q hq
    · rw [List.mem_singleton.mp hq]
      exact hlocked
  fit c hc := by
    refine fit_append.mpr ⟨hr.fit c hc, ⟨hp.known, hp.positive, ?_, hp.accepted⟩, trivial⟩
    have hposition : ((postAll posts c).inventoryAt p.row.warehouseId p.row.skuId).map Prod.fst = some p.id := by
      rw [positions_postAll, hc.1, ← positions_postAll posts, hp.found]
      rfl
    obtain ⟨⟨id, row⟩, hfound, rfl⟩ := Option.map_eq_some_iff.mp hposition
    have hrow := (inventoryAt_some hfound).1
    have hsame : (postAll posts c).inventories.get? p.id = some p.row :=
      (get?_postAll_congr (hc.2 p.id hlocked)).trans (inventoryAt_some hp.found).1
    rw [hsame] at hrow
    cases hrow
    exact hfound

/-! ## Safe sessions -/

section

variable {J : Db → Prop} {h : Lock RowLock → Prop} {posts : List Post} {base : Db}

/-- Nothing is asked of the statements. -/
abbrev anyStatement (α : Type) : Admits Db RowLock AppError α := fun _ _ _ _ => True

section

variable {β : Type} {Q : Except AppError β → (Lock RowLock → Prop) → (Db → Db) → Db → Prop}

theorem wp_appendMovement (hQ : ∀ x h pending d, Q (.error x) h pending d) {pending : Db → Db} {movement : InventoryMovement}
    {f : Unit → Tx β}
    (hnext : ∀ h' d, (∀ l, h l → h' l) → stockDiscipline.rely h base d →
      stockDiscipline.Wp J (anyStatement _) Q (answer (f ())) h'
        ((fun d => { d with movements := d.movements ++ [movement] }) ∘ pending) d) :
    stockDiscipline.Wp J (anyStatement _) Q (answer (appendMovement movement >>= f)) h pending base := by
  unfold appendMovement
  rw [bind_assoc]
  refine Discipline.wp_answer_lock fun d hrely _ _ => ?_
  dsimp only
  split_ifs with htaken
  · exact hQ _ _ _ _
  · rw [bind_assoc]
    refine Discipline.wp_answer_raiseIf (fun _ => hQ _ _ _ _) fun _ => ?_
    exact hnext _ d (fun l hl => .inl hl) hrely

/-- A call on a locked row adds itself. -/
theorem wp_moveLocked (hQ : ∀ x h pending d, Q (.error x) h pending d) {op : StockOperation} (hop : op ∈ stockOperations)
    {request : StockRequest} (hpos : 0 < request.quantity) (now : Time) {id : Nat} {row : Inventory} {f : ReservationResult → Tx β}
    (hr : Ready h posts base) (hlocked : h (.row (.inventory id)))
    (hfound : (postAll posts base).inventoryAt row.warehouseId row.skuId = some (id, row))
    (hnext : ∀ result h' posts' d, Ready h' posts' d →
      stockDiscipline.Wp J (anyStatement _) Q (answer (f result)) h' (postAll posts') d) :
    stockDiscipline.Wp J (anyStatement _) Q (answer (moveLocked op request now id row >>= f)) h (postAll posts) base := by
  unfold moveLocked
  cases hrefusal : op.refusal row request with
  | some refusal => exact hQ _ _ _ _
  | none =>
    have hadded : Ready h (posts ++ [⟨op, request, now, id, row⟩]) base := hr.add hlocked ⟨hop, hpos, hfound, hrefusal⟩
    dsimp only
    rw [bind_assoc]
    refine wp_appendMovement hQ fun h' d hh hrely => ?_
    rw [bind_assoc]
    refine Discipline.wp_answer_update ?_
    -- The movement and the row are written by two statements.
    have hwritten : (fun d : Db => { d with inventories := d.inventories.modify id (op.write request row now) }) ∘
        (fun d : Db => { d with movements := d.movements ++ [op.movement request row] }) ∘ postAll posts =
        postAll (posts ++ [⟨op, request, now, id, row⟩]) := by
      funext c
      rw [postAll_append]
      rfl
    rw [hwritten]
    exact hnext _ _ _ _ (hadded.later hh hrely)

theorem quantity_pos {op : StockOperation} (hop : op ∈ stockOperations) {request : StockRequest} (h : op.invalid request = none) :
    0 < request.quantity := by
  have hquantity : quantityInvalid request = none := by
    simp only [stockOperations, List.mem_cons, List.not_mem_nil, or_false] at hop
    rcases hop with rfl | rfl | rfl | rfl
    · unfold reserveOperation at h
      dsimp only at h
      split at h
      · cases h
      · assumption
    · exact h
    · exact h
    · exact h
  unfold quantityInvalid at hquantity
  split_ifs at hquantity with hle
  exact not_le.mp hle

/-- A call that is answered leaves its session ready, with one call more or the same. -/
theorem wp_moveStock (hQ : ∀ x h pending d, Q (.error x) h pending d) {op : StockOperation} (hop : op ∈ stockOperations)
    (request : StockRequest) (now : Time) {f : ReservationResult → Tx β} (hr : Ready h posts base)
    (hnext : ∀ result h' posts' d, Ready h' posts' d →
      stockDiscipline.Wp J (anyStatement _) Q (answer (f result)) h' (postAll posts') d) :
    stockDiscipline.Wp J (anyStatement _) Q (answer (moveStock op request now >>= f)) h (postAll posts) base := by
  unfold moveStock
  cases hinvalid : op.invalid request with
  | some invalid => exact hQ _ _ _ _
  | none =>
    dsimp only
    rw [bind_assoc]
    refine Discipline.wp_answer_query fun d hrely _ _ => ?_
    have hr := hr.later (fun _ hl => hl) hrely
    cases (postAll posts d).movementAt request.idempotencyKey with
    | some movement =>
      dsimp only
      rw [bind_assoc]
      refine Discipline.wp_answer_query fun d' hrely' _ _ => ?_
      exact hnext _ _ _ _ (hr.later (fun _ hl => hl) hrely')
    | none =>
      dsimp only
      unfold moveFresh resolveWarehouse
      rw [bind_assoc, bind_assoc]
      refine Discipline.wp_answer_query fun d₁ hrely₁ _ _ => ?_
      have hr := hr.later (fun _ hl => hl) hrely₁
      cases (postAll posts d₁).warehouseFor request.warehouseId with
      | none => exact hQ _ _ _ _
      | some warehouse =>
        show stockDiscipline.Wp J (anyStatement _) Q (answer ((lockForUpdate warehouse request.skuId >>= _) >>= f)) h (postAll posts) d₁
        unfold lockForUpdate
        rw [bind_assoc]
        refine Discipline.wp_answer_lock fun d₂ hrely₂ _ _ => ?_
        cases hfound : (postAll posts d₂).inventoryAt warehouse request.skuId with
        | none => exact hQ _ _ _ _
        | some entry =>
          obtain ⟨id, row⟩ := entry
          obtain ⟨-, hw, hs⟩ := inventoryAt_some hfound
          refine wp_moveLocked hQ hop (quantity_pos hop hinvalid) now (hr.later (fun _ hl => .inl hl) hrely₂) ?_ ?_ hnext
          · exact .inr (List.mem_singleton.mpr rfl)
          · rw [hw, hs]
            exact hfound

end

/-- The calls of a session fit what they are committed over, and the others keep what they hold. -/
theorem safe_stockSession {d₀ : Db} (hJ : J = fun d => ∃ posts, Fit posts d₀ ∧ d = postAll posts d₀) :
    ∀ {moves : List StockMove} {h : Lock RowLock → Prop} {posts : List Post} {base : Db}, Ready h posts base →
      stockDiscipline.Wp J (anyStatement _) (fun _ _ _ _ => True) (answer (transaction (runMoves moves))) h (postAll posts) base := by
  intro moves
  induction moves with
  | nil =>
    intro h posts base hr
    refine Discipline.wp_answer_commit (fun d hrely hd _ => ?_) fun _ _ _ _ => trivial
    have hfit := hr.fit d hrely
    rw [hJ] at hd ⊢
    obtain ⟨earlier, hearlier, rfl⟩ := hd
    refine ⟨⟨earlier ++ posts, fit_append.mpr ⟨hearlier, hfit⟩, (postAll_append _ _ _).symm⟩, fun h' hdisjoint => ?_, fun _ _ _ => trivial⟩
    refine ⟨positions_postAll posts _, fun id hid => get?_postAll_other fun p hp heq => ?_⟩
    rw [← heq] at hid
    exact hdisjoint _ hid (hr.held p hp)
  | cons move moves ih =>
    intro h posts base hr
    have hcons : transaction (runMoves (move :: moves)) =
        moveStock move.operation move.request move.now >>= fun _ => transaction (runMoves moves) := by
      show transaction ((moveStock move.operation move.request move.now >>= fun _ => pure ()) >>= fun _ => runMoves moves) = _
      rw [transaction_bind, bind_assoc]
      rfl
    rw [hcons]
    exact wp_moveStock (fun _ _ _ _ => trivial) move.known move.request move.now hr fun _ _ _ _ hr => ih hr

end

/-- What is committed is a sequence of calls, each on the row it found. -/
theorem reaches_fit {d₀ : Db} {next : Nat} {sessions : Nat → List StockMove} {t : Sys Db RowLock AppError (Except AppError Unit)}
    (h : Reaches (fun _ => anyStatement _) (Sys.init d₀ next fun i => stockSession (sessions i)) t) :
    ∃ posts, Fit posts d₀ ∧ t.committed = postAll posts d₀ := by
  have hready : ∀ h : Lock RowLock → Prop, Ready h [] d₀ := fun h => ⟨(fun _ hp => nomatch hp), fun _ _ => trivial⟩
  have hsafe : ∀ i, stockDiscipline.Safe (fun d => ∃ posts, Fit posts d₀ ∧ d = postAll posts d₀) (anyStatement _)
      (fun _ _ => True) (stockSession (sessions i)) (fun _ => False) id d₀ := fun i =>
    Discipline.Wp.mono (fun _ _ _ _ _ => trivial) (fun _ _ _ _ _ _ _ _ => trivial) _
      (safe_stockSession rfl (hready fun _ => False))
  exact Discipline.reaches_good ⟨[], trivial, rfl⟩ (fun _ _ => trivial) hsafe h

/-! ## One position -/

/-- The units a call moved into or out of what is available. -/
def InventoryMovement.units (m : InventoryMovement) : Int := |m.deltaAvailable|

/-- The units of one kind that were moved at a position since a ledger had `n` entries. -/
def Db.unitsSince (d : Db) (n : Nat) (kind : MovementType) (warehouseId skuId : Nat) : Int :=
  (((d.movements.drop n).filter fun m => decide (m.movementType = kind ∧ m.warehouseId = warehouseId ∧ m.skuId = skuId)).map
    InventoryMovement.units).sum

/-- The ledger of the calls. -/
def ledgerOf (posts : List Post) : List InventoryMovement := posts.map fun p => p.operation.movement p.request p.row

theorem movements_postAll (posts : List Post) (d : Db) : (postAll posts d).movements = d.movements ++ ledgerOf posts := by
  induction posts generalizing d with
  | nil => exact (List.append_nil _).symm
  | cons p posts ih =>
    refine (ih (p.on d)).trans ?_
    show (d.movements ++ [p.operation.movement p.request p.row]) ++ ledgerOf posts = _
    rw [List.append_assoc]
    rfl

/-- The units of one kind in a ledger. -/
def ledgerUnits (ledger : List InventoryMovement) (kind : MovementType) (warehouseId skuId : Nat) : Int :=
  ((ledger.filter fun m => decide (m.movementType = kind ∧ m.warehouseId = warehouseId ∧ m.skuId = skuId)).map
    InventoryMovement.units).sum

theorem unitsSince_postAll (posts : List Post) (d : Db) (kind : MovementType) (w s : Nat) :
    (postAll posts d).unitsSince d.movements.length kind w s = ledgerUnits (ledgerOf posts) kind w s := by
  unfold Db.unitsSince ledgerUnits
  rw [movements_postAll, List.drop_left]

theorem ledgerUnits_cons (m : InventoryMovement) (ledger : List InventoryMovement) (kind : MovementType) (w s : Nat) :
    ledgerUnits (m :: ledger) kind w s =
      (if m.movementType = kind ∧ m.warehouseId = w ∧ m.skuId = s then m.units else 0) + ledgerUnits ledger kind w s := by
  unfold ledgerUnits
  rw [List.filter_cons]
  by_cases hm : m.movementType = kind ∧ m.warehouseId = w ∧ m.skuId = s
  · simp [hm]
  · simp [hm]

theorem ledgerUnits_nonneg (ledger : List InventoryMovement) (kind : MovementType) (w s : Nat) : 0 ≤ ledgerUnits ledger kind w s := by
  refine List.sum_nonneg fun x hx => ?_
  obtain ⟨m, -, rfl⟩ := List.mem_map.mp hx
  exact abs_nonneg _

/-- What one call does to its row: where it reserves, the safety stock stays, and nothing else lowers what is available. -/
theorem Post.Fits.available {p : Post} {d : Db} (h : p.Fits d) :
    let after := p.operation.write p.request p.row p.now p.row
    let m := p.operation.movement p.request p.row
    after.safetyStock = p.row.safetyStock ∧ m.afterAvailable = after.availableQty ∧ m.units = |after.availableQty - p.row.availableQty| ∧
      (m.movementType = .orderLock ∧ after.availableQty = p.row.availableQty - m.units ∧ 0 < m.units ∧
          p.row.safetyStock ≤ after.availableQty ∨
        (m.movementType = .orderRelease ∨ m.movementType = .returnIn) ∧ after.availableQty = p.row.availableQty + m.units ∨
        m.movementType = .orderDeduct ∧ after.availableQty = p.row.availableQty) := by
  obtain ⟨op, request, now, id, row⟩ := p
  have hpos : 0 < request.quantity := h.positive
  have haccepted := h.accepted
  have hknown := h.known
  simp only [stockOperations, List.mem_cons, List.not_mem_nil, or_false] at hknown
  refine ⟨?_, rfl, rfl, ?_⟩
  · rcases hknown with rfl | rfl | rfl | rfl <;> rfl
  · rcases hknown with rfl | rfl | rfl | rfl
    · have hcan : row.canReserve request.quantity = true := by
        by_contra hnot
        unfold reserveOperation at haccepted
        dsimp only at haccepted
        rw [if_neg hnot] at haccepted
        cases haccepted
      obtain ⟨-, hsellable⟩ := of_decide_eq_true hcan
      have hunits : (reserveOperation.movement request row).units = request.quantity := by
        show |row.availableQty - request.quantity - row.availableQty| = request.quantity
        rw [sub_sub_cancel_left, abs_neg, abs_of_pos hpos]
      refine .inl ⟨rfl, ?_, ?_, ?_⟩
      · rw [hunits]
        rfl
      · rw [hunits]
        exact hpos
      · show row.safetyStock ≤ row.availableQty - request.quantity
        unfold Inventory.sellableQty at hsellable
        omega
    · have hunits : (releaseOperation.movement request row).units = request.quantity := by
        show |row.availableQty + request.quantity - row.availableQty| = request.quantity
        rw [add_sub_cancel_left, abs_of_pos hpos]
      refine .inr (.inl ⟨.inl rfl, ?_⟩)
      rw [hunits]
      rfl
    · exact .inr (.inr ⟨rfl, rfl⟩)
    · have hunits : (returnInOperation.movement request row).units = request.quantity := by
        show |row.availableQty + request.quantity - row.availableQty| = request.quantity
        rw [add_sub_cancel_left, abs_of_pos hpos]
      refine .inr (.inl ⟨.inr rfl, ?_⟩)
      rw [hunits]
      rfl

/-- What the calls leave of one position. -/
structure Kept (row row' : Inventory) (ledger : List InventoryMovement) (w s : Nat) : Prop where
  safetyStock : row'.safetyStock = row.safetyStock
  balance : row'.availableQty = row.availableQty - ledgerUnits ledger .orderLock w s + ledgerUnits ledger .orderRelease w s +
    ledgerUnits ledger .returnIn w s
  floor : min row.availableQty row.safetyStock ≤ row'.availableQty
  safe : 0 < ledgerUnits ledger .orderLock w s → row.safetyStock ≤ row'.availableQty
  left : ∀ m ∈ ledger, m.movementType = .orderLock → m.warehouseId = w → m.skuId = s → row.safetyStock ≤ m.afterAvailable

theorem kept_postAll {posts : List Post} {d : Db} (h : Fit posts d) {w s id : Nat} {row : Inventory}
    (hrow : d.inventoryAt w s = some (id, row)) :
    ∃ row', (postAll posts d).inventoryAt w s = some (id, row') ∧ Kept row row' (ledgerOf posts) w s := by
  induction posts generalizing d row with
  | nil => exact ⟨row, hrow, rfl, by simp [ledgerOf, ledgerUnits], min_le_left _ _, fun h => absurd h (lt_irrefl _), fun _ h => nomatch h⟩
  | cons p posts ih =>
    obtain ⟨hfits, hlater⟩ := h
    obtain ⟨hsafety, hafter, hunits, hcase⟩ := hfits.available
    have hmoved : (p.on d).inventoryAt w s = some (if id = p.id then (id, p.operation.write p.request p.row p.now row) else (id, row)) := by
      show (d.moved _ _ _ _ _).inventoryAt w s = _
      rw [inventoryAt_moved, hrow]
      rfl
    by_cases hposition : p.row.warehouseId = w ∧ p.row.skuId = s
    · -- The call is on this position.
      obtain ⟨hw, hs⟩ := hposition
      have hfound := hfits.found
      rw [hw, hs, hrow] at hfound
      obtain ⟨rfl, rfl⟩ := Prod.mk.inj (Option.some.inj hfound)
      rw [if_pos rfl] at hmoved
      obtain ⟨row', hrow', hkept⟩ := ih hlater hmoved
      refine ⟨row', hrow', ?_⟩
      have hledgerUnits : ∀ kind, ledgerUnits (ledgerOf (p :: posts)) kind w s =
          (if (p.operation.movement p.request p.row).movementType = kind then (p.operation.movement p.request p.row).units else 0) +
            ledgerUnits (ledgerOf posts) kind w s := by
        intro kind
        show ledgerUnits (p.operation.movement p.request p.row :: ledgerOf posts) kind w s = _
        have hat : (p.operation.movement p.request p.row).warehouseId = w ∧ (p.operation.movement p.request p.row).skuId = s := ⟨hw, hs⟩
        rw [ledgerUnits_cons]
        simp only [hat, and_true]
      have hnonneg : 0 ≤ (p.operation.movement p.request p.row).units := abs_nonneg _
      have hbalance := hkept.balance
      have hfloor := hkept.floor
      have hsafe := hkept.safe
      rw [hsafety] at hfloor hsafe
      have hlocked := ledgerUnits_nonneg (ledgerOf posts) .orderLock w s
      refine ⟨hkept.safetyStock.trans hsafety, ?_, ?_, ?_, ?_⟩
      · rw [hledgerUnits, hledgerUnits, hledgerUnits, hbalance]
        rcases hcase with ⟨hkind, havailable, -, -⟩ | ⟨hkind | hkind, havailable⟩ | ⟨hkind, havailable⟩ <;>
          · rw [hkind, havailable]
            simp only [reduceCtorEq, if_true, if_false]
            ring
      · rcases hcase with ⟨-, -, -, hle⟩ | ⟨-, havailable⟩ | ⟨-, havailable⟩ <;> omega
      · rw [hledgerUnits]
        rcases hcase with ⟨-, -, -, hle⟩ | ⟨hkind | hkind, havailable⟩ | ⟨hkind, havailable⟩
        · intro _
          omega
        · simpa [hkind] using hsafe
        · simpa [hkind] using hsafe
        · simpa [hkind] using hsafe
      · intro m hm hkind hmw hms
        rcases List.mem_cons.mp hm with rfl | hm
        · rw [hafter]
          rcases hcase with ⟨-, -, -, hle⟩ | ⟨hother | hother, -⟩ | ⟨hother, -⟩
          · exact hle
          · rw [hkind] at hother
            cases hother
          · rw [hkind] at hother
            cases hother
          · rw [hkind] at hother
            cases hother
        · rw [← hsafety]
          exact hkept.left m hm hkind hmw hms
    · -- The call is on another one.
      have hid : id ≠ p.id := by
        rintro rfl
        obtain ⟨hget, hw, hs⟩ := inventoryAt_some hrow
        rw [(inventoryAt_some hfits.found).1] at hget
        cases hget
        exact hposition ⟨hw, hs⟩
      rw [if_neg hid] at hmoved
      obtain ⟨row', hrow', hkept⟩ := ih hlater hmoved
      have hledgerUnits : ∀ kind, ledgerUnits (ledgerOf (p :: posts)) kind w s = ledgerUnits (ledgerOf posts) kind w s := by
        intro kind
        show ledgerUnits (p.operation.movement p.request p.row :: ledgerOf posts) kind w s = _
        rw [ledgerUnits_cons, if_neg fun h => hposition h.2, zero_add]
      refine ⟨row', hrow', hkept.safetyStock, ?_, hkept.floor, ?_, ?_⟩
      · rw [hledgerUnits, hledgerUnits, hledgerUnits]
        exact hkept.balance
      · rw [hledgerUnits]
        exact hkept.safe
      · intro m hm hkind hmw hms
        rcases List.mem_cons.mp hm with rfl | hm
        · exact absurd ⟨hmw, hms⟩ hposition
        · exact hkept.left m hm hkind hmw hms

/-! ## Every interleaving -/

theorem noCommit_runMoves (moves : List StockMove) : (runMoves moves).NoCommit := by
  unfold runMoves
  induction moves with
  | nil => trivial
  | cons move moves ih => exact .bind (.bind (noCommit_moveStock _ _ _) fun _ => trivial) fun _ => ih

/-- Whatever sessions of stock calls did in whatever order: every reservation left the safety stock, the units reserved and not
released are covered by what was above it and what was returned, and a session that was refused changed nothing. -/
theorem reserve_never_oversells (d₀ : Db) (next : Nat) (sessions : Nat → List StockMove) (actions : List (Action AppError))
    (t : Sys Db RowLock AppError (Except AppError Unit))
    (h : (Sys.init d₀ next fun i => stockSession (sessions i)).exec actions = some t) :
    (∀ w s id row, d₀.inventoryAt w s = some (id, row) → ∃ row', t.committed.inventoryAt w s = some (id, row') ∧
      row'.safetyStock = row.safetyStock ∧
      (0 < t.committed.unitsSince d₀.movements.length .orderLock w s → row.safetyStock ≤ row'.availableQty) ∧
      (∀ m ∈ t.committed.movements.drop d₀.movements.length, m.movementType = .orderLock → m.warehouseId = w → m.skuId = s →
        row.safetyStock ≤ m.afterAvailable) ∧
      t.committed.unitsSince d₀.movements.length .orderLock w s - t.committed.unitsSince d₀.movements.length .orderRelease w s ≤
        max (row.availableQty - row.safetyStock) 0 + t.committed.unitsSince d₀.movements.length .returnIn w s) ∧
    ∀ i x, (t.sessions i).prog = .ret (.error x) → ∀ earlier later u v, actions = earlier ++ .run i :: later →
      (Sys.init d₀ next fun i => stockSession (sessions i)).exec earlier = some u → u.runStep i = some v →
        v.committed = u.committed := by
  constructor
  · intro w s id row hrow
    obtain ⟨posts, hfit, hcommitted⟩ := reaches_fit (.exec .refl h)
    obtain ⟨row', hrow', hkept⟩ := kept_postAll hfit hrow
    have hledger : (postAll posts d₀).movements.drop d₀.movements.length = ledgerOf posts := by
      rw [movements_postAll, List.drop_left]
    rw [hcommitted, hledger, unitsSince_postAll, unitsSince_postAll, unitsSince_postAll]
    refine ⟨row', hrow', hkept.safetyStock, hkept.safe, hkept.left, ?_⟩
    have hbalance := hkept.balance
    have hfloor := hkept.floor
    omega
  · intro i x hrefused earlier later u v hactions hu hv
    exact Sys.refused_unchanged (commitsLast_transaction (noCommit_runMoves (sessions i))) h hrefused hactions hu hv

/-- One unit of one SKU is left. -/
def oneUnitLeft : Db where
  warehouses := (Dict.empty : Dict Nat Warehouse).set 1 { merchantId := 1, isDefault := true }
  inventories := (Dict.empty : Dict Nat Inventory).set 7
    { warehouseId := 1, skuId := 5, availableQty := 3, safetyStock := 2, totalInQty := 3 }

/-- A session that reserves it. -/
def lastUnit (key : String) : List StockMove :=
  [⟨reserveOperation, { skuId := 5, quantity := 1, idempotencyKey := key }, 1, List.mem_cons_self⟩]

/-- Two sessions read before either of them locks the row, and run to their ends one statement each. -/
def lastUnitSchedule : List (Action AppError) :=
  [.run 0, .run 1, .run 0, .run 1, .run 0, .run 0, .run 0, .run 0, .run 0, .run 1, .run 1, .run 1, .run 1, .run 1]

theorem reserve_never_oversells_last_unit :
    ∃ t, (Sys.init oneUnitLeft 8 fun i => stockSession (lastUnit s!"order-lock:{i}:cups:5")).exec lastUnitSchedule = some t ∧
      ∃ row', t.committed.inventoryAt 1 5 = some (7, row') ∧
        t.committed.unitsSince 0 .orderLock 1 5 - t.committed.unitsSince 0 .orderRelease 1 5 ≤
          max (3 - 2) 0 + t.committed.unitsSince 0 .returnIn 1 5 := by
  have hruns : ((Sys.init oneUnitLeft 8 fun i => stockSession (lastUnit s!"order-lock:{i}:cups:5")).exec
      lastUnitSchedule).isSome = true := by decide +kernel
  obtain ⟨t, ht⟩ := Option.isSome_iff_exists.mp hruns
  obtain ⟨row', hrow', -, -, -, hle⟩ := (reserve_never_oversells oneUnitLeft 8 _ lastUnitSchedule t ht).1 1 5 7
    { warehouseId := 1, skuId := 5, availableQty := 3, safetyStock := 2, totalInQty := 3 } rfl
  exact ⟨t, ht, row', hrow', hle⟩

end NovaCommerce

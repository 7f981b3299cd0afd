import PanelPuzzle.Proofs.Making.Desk
/-!
# Plugs in and out of the pool

Whatever is asked of a pool, in whatever order and whatever is drawn, the plugs that were brought are those
that were handed out and those that still wait.  A withdrawal moves the last plug into the gap that it
leaves, so the order of the pool tells nothing, and the accounts are kept as multisets.

* `PlugPool.Request`, `PlugPool.serveAll` — what can be asked of a pool, and a sequence of it.
* `Request.serve_balanced` — one request keeps the accounts.
* `PlugPool.withdrawWhere_eq_none_iff` — a withdrawal is refused only if there is nothing to withdraw.
* `PlugPool.serveAll_balanced` — **every sequence of requests keeps the accounts.**
-/

namespace PanelPuzzle

namespace PlugPool

/-! ## Requests -/

/-- Something that is asked of a pool. -/
inductive Request where
  | deposit (plug : Plug)
  | withdraw (panel : Nat)
  | withdrawWhere (panel : Nat) (condition : Plug → Bool)
  | drain

/-- The plugs that a request brings. -/
def Request.brought : Request → List Plug
  | deposit plug => [plug]
  | _ => []

/-- Serves a request and answers the plugs that are handed out. -/
def Request.serve : Request → PlugPool → StateM Draws (List Plug × PlugPool)
  | deposit plug, pool => pure ([], pool.deposit plug)
  | withdraw panel, pool => do
    let (found, left) ← pool.withdraw panel
    pure (found.toList, left)
  | withdrawWhere panel condition, pool => do
    let (found, left) ← pool.withdrawWhere panel condition
    pure (found.toList, left)
  | drain, pool => pure pool.drain

/-- Serves requests one after the other and answers all plugs that are handed out. -/
def serveAll : List Request → PlugPool → StateM Draws (List Plug × PlugPool)
  | [], pool => pure ([], pool)
  | request :: requests, pool => do
    let (handed, left) ← request.serve pool
    let (others, left) ← serveAll requests left
    pure (handed ++ others, left)

/-! ## Accounts -/

/-- **The accounts of a pool are balanced:** what was there and what was brought is what was handed out and
what is left. -/
def Balanced (pool : PlugPool) (brought : List Plug) (served : List Plug × PlugPool) : Prop :=
  (pool.plugs : Multiset Plug) + brought = served.1 + served.2.plugs

variable {pool : PlugPool} {panel : Nat} {condition : Plug → Bool}

/-- A withdrawal hands out what it takes. -/
lemma balanced_withdrawWhere (panel : Nat) (condition : Plug → Bool) (pool : PlugPool) (draws : Draws) :
    pool.Balanced [] ((pool.withdrawWhere panel condition draws).1.1.toList,
      (pool.withdrawWhere panel condition draws).1.2) := by
  rw [Balanced, Multiset.coe_nil, add_zero]
  rcases (keeps_pool_withdrawWhere panel condition pool draws trivial).1 with
    ⟨hnone, hleft⟩ | ⟨plug, hsome, hpool, -⟩
  · rw [hnone, hleft, Option.toList_none, Multiset.coe_nil, zero_add]
  · rw [hsome, hpool, Option.toList_some, Multiset.coe_singleton, Multiset.singleton_add]

/-- **One request keeps the accounts.** -/
lemma Request.serve_balanced (request : Request) (pool : PlugPool) (draws : Draws) :
    pool.Balanced request.brought (request.serve pool draws).1 := by
  cases request with
  | deposit plug =>
    change (pool.plugs : Multiset Plug) + ([plug] : List Plug) = 0 + (pool.plugs ++ [plug] : List Plug)
    rw [zero_add, Multiset.coe_add]
  | withdraw panel => exact balanced_withdrawWhere panel _ pool draws
  | withdrawWhere panel condition => exact balanced_withdrawWhere panel condition pool draws
  | drain =>
    change (pool.plugs : Multiset Plug) + 0 = pool.plugs + 0
    rfl

/-- Accounts that are balanced one after the other are balanced together. -/
lemma Balanced.append {left : PlugPool} {brought handed others : List Plug}
    {served : List Plug × PlugPool} (h : pool.Balanced brought (handed, left))
    (h' : left.Balanced others served) :
    pool.Balanced (brought ++ others) (handed ++ served.1, served.2) := by
  unfold Balanced at *
  calc (pool.plugs : Multiset Plug) + (brought ++ others : List Plug)
      = pool.plugs + brought + others := by rw [← Multiset.coe_add, add_assoc]
    _ = handed + (left.plugs + others) := by rw [h, add_assoc]
    _ = (handed ++ served.1 : List Plug) + served.2.plugs := by rw [h', ← Multiset.coe_add, add_assoc]

/-- **Every sequence of requests keeps the accounts,** of whatever pool. -/
lemma balanced_serveAll : ∀ (requests : List Request) (pool : PlugPool) (draws : Draws),
    pool.Balanced (requests.flatMap Request.brought) (serveAll requests pool draws).1
  | [], _, _ => add_comm _ _
  | request :: requests, pool, draws =>
    (request.serve_balanced pool draws).append (balanced_serveAll requests _ _)

/-! ## Refusals -/

/-- **A withdrawal is refused only if there is nothing to withdraw.** -/
lemma withdrawWhere_eq_none_iff (panel : Nat) (condition : Plug → Bool) (pool : PlugPool) (draws : Draws) :
    (pool.withdrawWhere panel condition draws).1.1 = none ↔
      ∀ plug ∈ pool.plugs, plug.origin ≠ panel → condition plug = false := by
  constructor
  · intro hnone plug hplug horigin
    refine Bool.eq_false_iff.mpr fun hcondition => ?_
    exact (keeps_withdrawWhere_ne_none hplug horigin hcondition draws trivial).1 hnone
  · intro hno
    rcases (keeps_pool_withdrawWhere panel condition pool draws trivial).1 with
      ⟨hnone, -⟩ | ⟨plug, -, hpool, horigin, hcondition⟩
    · exact hnone
    · have hplug : plug ∈ pool.plugs := Multiset.mem_coe.mp (hpool ▸ Multiset.mem_cons_self plug _)
      exact absurd (hno plug hplug horigin) (ne_of_eq_of_ne hcondition Bool.noConfusion)

/-- What is withdrawn was in the pool, comes from another panel and satisfies the condition. -/
lemma mem_of_withdrawWhere {plug : Plug} {draws : Draws}
    (h : (pool.withdrawWhere panel condition draws).1.1 = some plug) :
    plug ∈ pool.plugs ∧ plug.origin ≠ panel ∧ condition plug = true := by
  rcases (keeps_pool_withdrawWhere panel condition pool draws trivial).1 with
    ⟨hnone, -⟩ | ⟨found, hfound, hpool, hother⟩
  · cases hnone.symm.trans h
  · obtain rfl := Option.some.inj (hfound.symm.trans h)
    exact ⟨Multiset.mem_coe.mp (hpool ▸ Multiset.mem_cons_self found _), hother⟩

/-- A panel may take no plug if all come from it. -/
lemma eligible_eq_zero_iff : pool.eligible panel = 0 ↔ ∀ plug ∈ pool.plugs, plug.origin = panel := by
  simp [eligible, List.countP_eq_zero]

/-! ## The result -/

/-- **A pool neither loses nor invents plugs.**  After any requests to a new pool, and so at each moment of
any sequence of them, the plugs that were brought are those that were handed out and those that wait.  A
withdrawal hands out a plug of another panel that satisfies the condition; it is refused just if none waits,
and a withdrawal without a condition just if the panel may take none. -/
theorem serveAll_balanced (requests : List Request) (draws : Draws) :
    PlugPool.Balanced {} (requests.flatMap Request.brought) (serveAll requests {} draws).1 ∧
    ∀ (panel : Nat) (condition : Plug → Bool) (draws' : Draws),
      let left := (serveAll requests {} draws).1.2
      (∀ plug, (left.withdrawWhere panel condition draws').1.1 = some plug →
        plug ∈ left.plugs ∧ plug.origin ≠ panel ∧ condition plug = true) ∧
      ((left.withdrawWhere panel condition draws').1.1 = none ↔
        ¬ ∃ plug ∈ left.plugs, plug.origin ≠ panel ∧ condition plug = true) ∧
      ((left.withdraw panel draws').1.1 = none ↔ left.eligible panel = 0) := by
  refine ⟨balanced_serveAll requests {} draws, fun panel condition draws' => ?_⟩
  refine ⟨fun plug => mem_of_withdrawWhere, ?_, ?_⟩
  · rw [withdrawWhere_eq_none_iff]
    simp only [not_exists, not_and, Bool.not_eq_true]
  · rw [withdraw, withdrawWhere_eq_none_iff, eligible_eq_zero_iff]
    simp only [Bool.true_eq_false, imp_false, not_not]

end PlugPool

end PanelPuzzle

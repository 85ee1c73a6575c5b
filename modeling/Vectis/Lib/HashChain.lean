import Mathlib.Data.List.Basic

/-!
# Hash chains

Items with a hash and the hash of the item before, the newest first. A chain starts with an item that is known as a
first one; the others are not. Where no two of the items have the same hash, the hash of the newest determines the whole
chain (`Chain.eq_of_head`).
-/

namespace HashChain

variable {R H : Type} {first : R → Prop} {hash prev : R → H}

/-- The items of a chain, the newest first. -/
inductive Chain (first : R → Prop) (hash prev : R → H) : List R → Prop
  | start (r : R) : first r → Chain first hash prev [r]
  | link (r q : R) (rest : List R) : ¬ first r → prev r = hash q → Chain first hash prev (q :: rest) →
      Chain first hash prev (r :: q :: rest)

theorem Chain.eq_of_head {as bs : List R} (ha : Chain first hash prev as) (hb : Chain first hash prev bs)
    (hinj : ∀ x ∈ as, ∀ y ∈ bs, hash x = hash y → x = y) (h : as.head?.map hash = bs.head?.map hash) : as = bs := by
  induction ha generalizing bs with
  | start r hfirst =>
    cases hb with
    | start r' _ => rw [hinj r List.mem_cons_self r' List.mem_cons_self (Option.some.inj h)]
    | link r' q' rest' hnot' _ _ =>
      rw [hinj r List.mem_cons_self r' List.mem_cons_self (Option.some.inj h)] at hfirst
      exact absurd hfirst hnot'
  | link r q rest hnot hprev _ ih =>
    cases hb with
    | start r' hfirst' =>
      rw [hinj r List.mem_cons_self r' List.mem_cons_self (Option.some.inj h)] at hnot
      exact absurd hfirst' hnot
    | link r' q' rest' _ hprev' hrest' =>
      have hr := hinj r List.mem_cons_self r' List.mem_cons_self (Option.some.inj h)
      subst hr
      have hq : hash q = hash q' := hprev.symm.trans hprev'
      rw [ih hrest' (fun x hx y hy => hinj x (List.mem_cons_of_mem _ hx) y (List.mem_cons_of_mem _ hy))
        (congrArg some hq)]

end HashChain

import Mathlib.Logic.Basic

/-!
# Loops that may fail

A loop over a list in `Except`, all of whose rounds succeed, succeeds with the result of the pure loop. A failing bind
fails in its first or its second part (`bind_eq_ok`).

- `collect`: items built one after another, each from the names of those before it (`collect_eq_ok`).
-/

namespace Loop

variable {ε α β : Type}

theorem foldlM_ok {f : β → α → Except ε β} {g : β → α → β} : ∀ (l : List α) (b : β),
    (∀ a ∈ l, ∀ b, f b a = .ok (g b a)) → l.foldlM f b = .ok (l.foldl g b)
  | [], _, _ => rfl
  | a :: l, b, h => by
    rw [List.foldlM_cons, h a List.mem_cons_self b]
    exact foldlM_ok l (g b a) fun a' ha' => h a' (List.mem_cons_of_mem _ ha')

theorem mapM_ok {f : α → Except ε β} {g : α → β} : ∀ (l : List α), (∀ a ∈ l, f a = .ok (g a)) →
    l.mapM f = .ok (l.map g)
  | [], _ => rfl
  | a :: l, h => by
    rw [List.mapM_cons, h a List.mem_cons_self, mapM_ok l fun a' ha' => h a' (List.mem_cons_of_mem _ ha')]
    rfl

theorem forM_ok {f : α → Except ε PUnit} : ∀ (l : List α), (∀ a ∈ l, f a = .ok ()) → l.forM f = .ok ()
  | [], _ => rfl
  | a :: l, h => by
    show (f a >>= fun _ => l.forM f) = .ok ()
    rw [h a List.mem_cons_self]
    exact forM_ok l fun a' ha' => h a' (List.mem_cons_of_mem _ ha')

theorem bind_eq_ok {x : Except ε α} {f : α → Except ε β} {b : β} : (x >>= f) = .ok b ↔ ∃ a, x = .ok a ∧
    f a = .ok b := by
  cases x with
  | error e => simp [bind, Except.bind]
  | ok a => simp [bind, Except.bind]

theorem bind_congr {x : Except ε α} {f g : α → Except ε β} (h : ∀ a, x = .ok a → f a = g a) :
    (x >>= f) = (x >>= g) := by
  cases x with
  | error e => rfl
  | ok a => exact h a rfl

theorem bind_unit_eq_ok {x : Except ε PUnit} {f : PUnit → Except ε β} {b : β} :
    (x >>= f) = .ok b ↔ x = .ok () ∧ f () = .ok b := by
  rw [bind_eq_ok]
  exact ⟨fun ⟨_, h⟩ => h, fun h => ⟨_, h⟩⟩

theorem map_eq_ok {x : Except ε α} {f : α → β} {b : β} : x.map f = .ok b ↔ ∃ a, x = .ok a ∧ f a = b := by
  cases x with
  | error e => simp [Except.map]
  | ok a => simp [Except.map]

@[simp] theorem mapError_ok {δ : Type} {f : ε → δ} {a : α} : (Except.ok a).mapError f = .ok a := rfl

@[simp] theorem mapError_error {δ : Type} {f : ε → δ} {e : ε} :
    (Except.error e : Except ε α).mapError f = .error (f e) := rfl

theorem mapError_eq_ok {δ : Type} {x : Except ε α} {f : ε → δ} {a : α} : x.mapError f = .ok a ↔ x = .ok a := by
  cases x with
  | error e => simp
  | ok a => simp

theorem guard_eq_ok {p : Prop} [Decidable p] {e : ε} {x : Except ε β} {b : β} :
    (if p then .error e else x) = .ok b ↔ ¬ p ∧ x = .ok b := by
  by_cases hp : p
  · simp [hp]
  · simp [hp]

theorem check_eq_ok {p : Prop} [Decidable p] {e : ε} {x : Except ε β} {b : β} :
    (if p then x else .error e) = .ok b ↔ p ∧ x = .ok b := by
  by_cases hp : p
  · simp [hp]
  · simp [hp]

theorem forM_eq_ok {f : α → Except ε PUnit} : ∀ {l : List α}, l.forM f = .ok () ↔ ∀ a ∈ l, f a = .ok ()
  | [] => by simp [List.forM, pure, Except.pure]
  | a :: l => by
    show (f a >>= fun _ => l.forM f) = .ok () ↔ _
    rw [bind_unit_eq_ok, forM_eq_ok, List.forall_mem_cons]

/-! ## Named items -/

variable {κ : Type}

/-- Each item is built from the names of the items before it. -/
def collect (build : List κ → α → Except ε β) (name : α → κ) : List κ → List α → Except ε (List β)
  | _, [] => .ok []
  | seen, a :: l => do
    let b ← build seen a
    let rest ← collect build name (name a :: seen) l
    .ok (b :: rest)

theorem collect_cons {build : List κ → α → Except ε β} {name : α → κ} {seen : List κ} {a : α} {l : List α}
    {out : List β} :
    collect build name seen (a :: l) = .ok out ↔
      ∃ b rest, build seen a = .ok b ∧ collect build name (name a :: seen) l = .ok rest ∧ out = b :: rest := by
  rw [collect, bind_eq_ok]
  constructor
  · rintro ⟨b, hb, h⟩
    obtain ⟨rest, hrest, h⟩ := bind_eq_ok.mp h
    cases h
    exact ⟨b, rest, hb, hrest, rfl⟩
  · rintro ⟨b, rest, hb, hrest, rfl⟩
    exact ⟨b, hb, bind_eq_ok.mpr ⟨rest, hrest, rfl⟩⟩

/-- What is built comes from one of the items. -/
theorem mem_collect {build : List κ → α → Except ε β} {name : α → κ} : ∀ {l : List α} {seen : List κ} {out : List β},
    collect build name seen l = .ok out → ∀ b ∈ out, ∃ a ∈ l, ∃ seen', build seen' a = .ok b
  | [], seen, out, h, b, hb => by
    cases h
    cases hb
  | a :: l, seen, out, h, b, hb => by
    obtain ⟨b', rest, hb', hrest, rfl⟩ := collect_cons.mp h
    rcases List.mem_cons.mp hb with rfl | hb
    · exact ⟨a, List.mem_cons_self, seen, hb'⟩
    · obtain ⟨a', ha', seen', h'⟩ := mem_collect hrest b hb
      exact ⟨a', List.mem_cons_of_mem _ ha', seen', h'⟩

/-- Rounds that accept what others accept, with results that agree in what `d` keeps. -/
theorem collect_map {δ : Type} {build build' : List κ → α → Except ε β} {name : α → κ} {d : β → δ} :
    ∀ {l : List α} {seen : List κ} {out : List β},
    (∀ a ∈ l, ∀ seen b, build seen a = .ok b → ∃ b', build' seen a = .ok b' ∧ d b' = d b) →
    collect build name seen l = .ok out → ∃ out', collect build' name seen l = .ok out' ∧ out'.map d = out.map d
  | [], seen, out, _, h => by
    cases h
    exact ⟨[], rfl, rfl⟩
  | a :: l, seen, out, hround, h => by
    obtain ⟨b, rest, hb, hrest, rfl⟩ := collect_cons.mp h
    obtain ⟨b', hb', heq⟩ := hround a List.mem_cons_self seen b hb
    obtain ⟨rest', hrest', hmap⟩ := collect_map (fun a ha => hround a (List.mem_cons_of_mem _ ha)) hrest
    refine ⟨b' :: rest', collect_cons.mpr ⟨b', rest', hb', hrest', rfl⟩, ?_⟩
    rw [List.map_cons, List.map_cons, heq, hmap]

/-- Every item has a round. -/
theorem collect_forall {build : List κ → α → Except ε β} {name : α → κ} : ∀ {l : List α} {seen : List κ} {out : List β},
    collect build name seen l = .ok out → ∀ a ∈ l, ∃ seen' b, build seen' a = .ok b
  | [], _, _, _ => List.forall_mem_nil _
  | a :: l, seen, out, h => by
    obtain ⟨b, rest, hb, hrest, rfl⟩ := collect_cons.mp h
    rw [List.forall_mem_cons]
    exact ⟨⟨seen, b, hb⟩, collect_forall hrest⟩

/-- Rounds that check the item, and its name against those before it, and build from the item alone. -/
theorem collect_eq_ok {build : List κ → α → Except ε β} {name : α → κ} {f : α → β} {valid : α → Prop} {apart : κ →
    κ → Prop} (h : ∀ seen a b, build seen a = .ok b ↔ valid a ∧ (∀ k ∈ seen, apart k (name a)) ∧ b = f a) {l : List α}
    {seen : List κ} {out : List β} : collect build name seen l = .ok out ↔
      (∀ a ∈ l, valid a) ∧ (∀ k ∈ seen, ∀ a ∈ l, apart k (name a)) ∧ (l.map name).Pairwise apart ∧ out = l.map f := by
  induction l generalizing seen out with
  | nil =>
    rw [collect, Except.ok.injEq, eq_comm]
    simp
  | cons a l ih =>
    simp only [collect_cons, h, ih, List.forall_mem_cons, List.map_cons, List.pairwise_cons, List.forall_mem_map]
    constructor
    · rintro ⟨b, rest, ⟨hvalid, hseen, rfl⟩, ⟨hvalids, ⟨hfirst, hseens⟩, hpair, rfl⟩, rfl⟩
      exact ⟨⟨hvalid, hvalids⟩, fun k hk => ⟨hseen k hk, hseens k hk⟩, ⟨hfirst, hpair⟩, rfl⟩
    · rintro ⟨⟨hvalid, hvalids⟩, hseen, ⟨hfirst, hpair⟩, rfl⟩
      exact ⟨_, _, ⟨hvalid, fun k hk => (hseen k hk).1, rfl⟩, ⟨hvalids, ⟨hfirst, fun k hk => (hseen k hk).2⟩, hpair,
        rfl⟩, rfl⟩

end Loop

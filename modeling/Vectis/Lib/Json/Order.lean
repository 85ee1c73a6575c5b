import Vectis.Lib.Json

/-!
# JSON values up to the order of keys

- `Same`: two values differ in the order of the entries of their objects only;
- `Value.normalize`: objects with sorted keys, the last of equal keys;
- `same_iff_normalize`: values with distinct keys are the same when they have the same normal form.
-/

namespace Json

/-! ## The order of keys -/

theorem charsLt_irrefl : ∀ cs : List Char, charsLt cs cs = false
  | [] => rfl
  | c :: cs => by simp [charsLt, charsLt_irrefl cs]

theorem charsLt_trans : ∀ {cs ds es : List Char}, charsLt cs ds = true → charsLt ds es = true → charsLt cs es = true
  | _, [], _, h, _ => by simp [charsLt] at h
  | _, _ :: _, [], _, h => by simp [charsLt] at h
  | [], _ :: _, _ :: _, _, _ => rfl
  | c :: cs, d :: ds, e :: es, h₁, h₂ => by
    simp only [charsLt, Bool.or_eq_true, Bool.and_eq_true, decide_eq_true_eq] at h₁ h₂ ⊢
    rcases h₁ with h₁ | ⟨rfl, h₁⟩
    · rcases h₂ with h₂ | ⟨rfl, -⟩
      · exact Or.inl (by omega)
      · exact Or.inl h₁
    · rcases h₂ with h₂ | ⟨rfl, h₂⟩
      · exact Or.inl h₂
      · exact Or.inr ⟨rfl, charsLt_trans h₁ h₂⟩

theorem charsLt_connex : ∀ {cs ds : List Char}, charsLt cs ds = false → cs ≠ ds → charsLt ds cs = true
  | [], [], _, h => absurd rfl h
  | [], _ :: _, h, _ => by simp [charsLt] at h
  | _ :: _, [], _, _ => rfl
  | c :: cs, d :: ds, h, hne => by
    simp only [charsLt, Bool.or_eq_false_iff, Bool.and_eq_false_iff, decide_eq_false_iff_not] at h
    simp only [charsLt, Bool.or_eq_true, Bool.and_eq_true, decide_eq_true_eq]
    obtain ⟨hnot, htail⟩ := h
    by_cases heq : c = d
    · subst heq
      rcases htail with htail | htail
      · exact absurd rfl htail
      · exact Or.inr ⟨rfl, charsLt_connex htail fun h => hne (by rw [h])⟩
    · have hval : c.toNat ≠ d.toNat := fun h => heq (Char.toNat_inj.mp h)
      exact Or.inl (by omega)

theorem keyLt_trans {a b c : String} (h₁ : keyLt a b = true) (h₂ : keyLt b c = true) : keyLt a c = true :=
  charsLt_trans h₁ h₂

theorem keyLt_ne {a b : String} (h : keyLt a b = true) : a ≠ b := by
  rintro rfl
  rw [keyLt, charsLt_irrefl] at h
  cases h

theorem keyLt_asymm {a b : String} (h : keyLt a b = true) : keyLt b a = false := by
  rw [Bool.eq_false_iff]
  intro h'
  exact keyLt_ne (keyLt_trans h h') rfl

theorem keyLt_connex {a b : String} (h : keyLt a b = false) (hne : a ≠ b) : keyLt b a = true :=
  charsLt_connex h fun heq => hne (String.toList_inj.mp heq)

/-! ## Normal forms -/

theorem insertEntry_comm {k l : String} (hne : k ≠ l) (v w : Value) (entries : List (String × Value)) :
    insertEntry k v (insertEntry l w entries) = insertEntry l w (insertEntry k v entries) := by
  induction entries with
  | nil =>
    cases hkl : keyLt k l with
    | true => simp [insertEntry, hkl, keyLt_asymm hkl, hne.symm]
    | false => simp [insertEntry, hkl, keyLt_connex hkl hne, hne]
  | cons entry entries ih =>
    obtain ⟨o, u⟩ := entry
    cases hko : keyLt k o with
    | true =>
      cases hlo : keyLt l o with
      | true =>
        cases hkl : keyLt k l with
        | true => simp [insertEntry, hko, hlo, hkl, keyLt_asymm hkl, hne.symm]
        | false => simp [insertEntry, hko, hlo, hkl, keyLt_connex hkl hne, hne]
      | false =>
        have hlk : keyLt l k = false := by
          rw [Bool.eq_false_iff]
          intro h
          rw [keyLt_trans h hko] at hlo
          cases hlo
        by_cases hl : l = o
        · subst hl
          simp [insertEntry, hko, hlo, hlk, hne.symm]
        · simp [insertEntry, hko, hlo, hl, hlk, hne.symm]
    | false =>
      by_cases hk : k = o
      · subst hk
        cases hlo : keyLt l k with
        | true => simp [insertEntry, hko, hlo, keyLt_asymm hlo, hne]
        | false => simp [insertEntry, hko, hlo, hne.symm]
      · cases hlo : keyLt l o with
        | true =>
          have hkl : keyLt k l = false := by
            rw [Bool.eq_false_iff]
            intro h
            rw [keyLt_trans h hlo] at hko
            cases hko
          simp [insertEntry, hko, hk, hlo, hkl, hne]
        | false =>
          by_cases hl : l = o
          · subst hl
            simp [insertEntry, hko, hk, hlo]
          · simp [insertEntry, hko, hk, hlo, hl, ih]

theorem plainEntries_cons {e next : String × Value} {entries : List (String × Value)} (he : plainEntry e = true)
    (hlt : keyLt e.1 next.1 = true) (h : plainEntries (next :: entries) = true) :
    plainEntries (e :: next :: entries) = true := by
  rw [plainEntries, he, hlt, h, Bool.and_self, Bool.and_self]

theorem plainEntries_insertEntry {k : String} {v : Value} (hv : v.plain = true) : ∀ {entries : List (String × Value)},
    plainEntries entries = true → plainEntries (insertEntry k v entries) = true
  | [], _ => by simpa [insertEntry, plainEntries, plainEntry] using hv
  | (o, w) :: entries, h => by
    cases hko : keyLt k o with
    | true =>
      rw [insertEntry, if_pos hko]
      exact plainEntries_cons hv hko h
    | false =>
      by_cases hk : k = o
      · rw [insertEntry, hko, if_neg Bool.false_ne_true, if_pos hk]
        exact h
      · have hok := keyLt_connex hko hk
        rw [insertEntry, hko, if_neg Bool.false_ne_true, if_neg hk]
        cases entries with
        | nil =>
          have hw : plainEntry (o, w) = true := by simpa [plainEntries] using h
          exact plainEntries_cons hw hok (by simpa [plainEntries, plainEntry] using hv)
        | cons next entries =>
          obtain ⟨o', w'⟩ := next
          rw [plainEntries, Bool.and_eq_true, Bool.and_eq_true] at h
          obtain ⟨⟨hw, hoo⟩, hrest⟩ := h
          have ih := plainEntries_insertEntry (k := k) hv hrest
          -- the next key is `k` or `o'`
          rw [insertEntry] at ih ⊢
          split at ih
          · rename_i hko'
            rw [if_pos hko']
            exact plainEntries_cons hw hok ih
          · rename_i hko'
            rw [if_neg hko']
            split at ih
            · rename_i hk'
              rw [if_pos hk']
              exact plainEntries_cons hw hoo ih
            · rename_i hk'
              rw [if_neg hk']
              exact plainEntries_cons hw hoo ih

mutual

theorem plain_normalize : ∀ v : Value, v.integral = true → v.normalize.plain = true
  | .null, _ => rfl
  | .bool _, _ => rfl
  | .number _, h => h
  | .string _, _ => rfl
  | .array items, h => plainItems_normalize items h
  | .object entries, h => plainEntries_normalize entries h

theorem plainItems_normalize : ∀ items : List Value, integralItems items = true →
    plainItems (normalizeItems items) = true
  | [], _ => rfl
  | item :: items, h => by
    rw [integralItems, Bool.and_eq_true] at h
    rw [normalizeItems, plainItems, plain_normalize item h.1, plainItems_normalize items h.2, Bool.and_self]

theorem plainEntries_normalize : ∀ entries : List (String × Value), integralEntries entries = true →
    plainEntries (normalizeEntries entries) = true
  | [], _ => rfl
  | (_, v) :: entries, h => by
    rw [integralEntries, Bool.and_eq_true] at h
    exact plainEntries_insertEntry (plain_normalize v h.1) (plainEntries_normalize entries h.2)

end

/-! ## The same value -/

mutual

/-- The least equivalence that respects arrays and objects and reorders entries of different keys. -/
inductive Same : Value → Value → Prop
  | refl (v : Value) : Same v v
  | symm {v w : Value} : Same v w → Same w v
  | trans {u v w : Value} : Same u v → Same v w → Same u w
  | array {items items' : List Value} : SameItems items items' → Same (.array items) (.array items')
  | object {entries entries' : List (String × Value)} : SameEntries entries entries' →
      Same (.object entries) (.object entries')

inductive SameItems : List Value → List Value → Prop
  | nil : SameItems [] []
  | cons {v w : Value} {items items' : List Value} : Same v w → SameItems items items' →
      SameItems (v :: items) (w :: items')

inductive SameEntries : List (String × Value) → List (String × Value) → Prop
  | nil : SameEntries [] []
  | cons {k : String} {v w : Value} {entries entries' : List (String × Value)} : Same v w →
      SameEntries entries entries' → SameEntries ((k, v) :: entries) ((k, w) :: entries')
  | swap {k l : String} {v w : Value} {entries : List (String × Value)} : k ≠ l →
      SameEntries ((k, v) :: (l, w) :: entries) ((l, w) :: (k, v) :: entries)
  | trans {es fs gs : List (String × Value)} : SameEntries es fs → SameEntries fs gs → SameEntries es gs

end

mutual

theorem Same.normalize_eq : ∀ {v w : Value}, Same v w → v.normalize = w.normalize
  | _, _, .refl _ => rfl
  | _, _, .symm h => h.normalize_eq.symm
  | _, _, .trans h₁ h₂ => h₁.normalize_eq.trans h₂.normalize_eq
  | _, _, .array h => by simp only [Value.normalize, h.normalize_eq]
  | _, _, .object h => by simp only [Value.normalize, h.normalize_eq]

theorem SameItems.normalize_eq : ∀ {items items' : List Value}, SameItems items items' →
    normalizeItems items = normalizeItems items'
  | _, _, .nil => rfl
  | _, _, .cons h hs => by simp only [normalizeItems, h.normalize_eq, hs.normalize_eq]

theorem SameEntries.normalize_eq : ∀ {entries entries' : List (String × Value)}, SameEntries entries entries' →
    normalizeEntries entries = normalizeEntries entries'
  | _, _, .nil => rfl
  | _, _, .cons h hs => by simp only [normalizeEntries, normalizeEntry, h.normalize_eq, hs.normalize_eq]
  | _, _, .swap hne => by simp only [normalizeEntries, normalizeEntry, insertEntry_comm hne]
  | _, _, .trans h₁ h₂ => h₁.normalize_eq.trans h₂.normalize_eq

end

mutual

/-- No object has two entries of one key. -/
def Value.distinct : Value → Bool
  | .array items => distinctItems items
  | .object entries => distinctEntries entries
  | _ => true

def distinctItems : List Value → Bool
  | [] => true
  | item :: items => item.distinct && distinctItems items

def distinctEntries : List (String × Value) → Bool
  | [] => true
  | entry :: entries => distinctEntry entry && entries.all (fun other => other.1 ≠ entry.1) && distinctEntries entries

def distinctEntry : String × Value → Bool
  | (_, value) => value.distinct

end

theorem SameEntries.refl : ∀ entries : List (String × Value), SameEntries entries entries
  | [] => .nil
  | (_, v) :: entries => .cons (.refl v) (.refl entries)

theorem sameEntries_insertEntry {k : String} {v : Value} : ∀ {entries : List (String × Value)},
    (∀ e ∈ entries, e.1 ≠ k) → SameEntries ((k, v) :: entries) (insertEntry k v entries)
  | [], _ => .refl _
  | (o, w) :: entries, h => by
    have ho : o ≠ k := h (o, w) List.mem_cons_self
    unfold insertEntry
    split
    · exact .refl _
    · rw [if_neg ho.symm]
      exact .trans (.swap ho.symm)
        (.cons (.refl w) (sameEntries_insertEntry fun e he => h e (List.mem_cons_of_mem _ he)))

theorem mem_insertEntry {k : String} {v : Value} {e : String × Value} : ∀ {entries : List (String × Value)},
    e ∈ insertEntry k v entries → e = (k, v) ∨ e ∈ entries
  | [], h => Or.inl (List.mem_singleton.mp h)
  | (o, w) :: entries, h => by
    unfold insertEntry at h
    split at h
    · exact List.mem_cons.mp h
    · split at h
      · exact Or.inr h
      · rcases List.mem_cons.mp h with rfl | h
        · exact Or.inr List.mem_cons_self
        · exact (mem_insertEntry h).imp id (List.mem_cons_of_mem _)

theorem mem_normalizeEntries {e : String × Value} : ∀ {entries : List (String × Value)}, e ∈ normalizeEntries entries →
    ∃ e' ∈ entries, e'.1 = e.1
  | [], h => by simp [normalizeEntries] at h
  | (k, v) :: entries, h => by
    rw [normalizeEntries] at h
    rcases mem_insertEntry h with rfl | h
    · exact ⟨(k, v), List.mem_cons_self, rfl⟩
    · obtain ⟨e', he', hkey⟩ := mem_normalizeEntries h
      exact ⟨e', List.mem_cons_of_mem _ he', hkey⟩

mutual

theorem same_normalize : ∀ v : Value, v.distinct = true → Same v v.normalize
  | .null, _ => .refl _
  | .bool _, _ => .refl _
  | .number _, _ => .refl _
  | .string _, _ => .refl _
  | .array items, h => .array (sameItems_normalize items h)
  | .object entries, h => .object (sameEntries_normalize entries h)

theorem sameItems_normalize : ∀ items : List Value, distinctItems items = true → SameItems items (normalizeItems items)
  | [], _ => .nil
  | item :: items, h => by
    rw [distinctItems, Bool.and_eq_true] at h
    exact .cons (same_normalize item h.1) (sameItems_normalize items h.2)

theorem sameEntries_normalize : ∀ entries : List (String × Value), distinctEntries entries = true →
    SameEntries entries (normalizeEntries entries)
  | [], _ => .nil
  | (k, v) :: entries, h => by
    rw [distinctEntries, Bool.and_eq_true, Bool.and_eq_true] at h
    obtain ⟨⟨hv, hkeys⟩, hrest⟩ := h
    have hnew : ∀ e ∈ normalizeEntries entries, e.1 ≠ k := by
      intro e he
      obtain ⟨e', he', hkey⟩ := mem_normalizeEntries he
      have hne := List.all_eq_true.mp hkeys e' he'
      rw [← hkey]
      exact of_decide_eq_true hne
    exact .trans (.cons (same_normalize v hv) (sameEntries_normalize entries hrest)) (sameEntries_insertEntry hnew)

end

/-- Values with distinct keys are the same when they have the same normal form. -/
theorem same_iff_normalize {v w : Value} (hv : v.distinct = true) (hw : w.distinct = true) :
    Same v w ↔ v.normalize = w.normalize := by
  constructor
  · exact Same.normalize_eq
  · intro h
    have hright := (same_normalize w hw).symm
    rw [← h] at hright
    exact .trans (same_normalize v hv) hright

end Json

import BenchTracker.Json.Shape

/-!
# Readers with a function behind them

A function can be applied to what a reader has read. It passes through lists and fields, so that a
text is read first as it stands, and what is made of it is a matter of its own.
-/

namespace BenchTracker

namespace Json

namespace Reader

variable {α β γ : Type}

/-- Reads a value and applies a function to it. -/
def mapped (f : α → β) (value : Reader α) : Reader β := fun s =>
  (value s).map fun (x, r) => (f x, r)

theorem mapped_bind (f : α → β) (value : Reader α) (s : List Char)
    (rest : β × List Char → Except Fault γ) :
    (mapped f value s >>= rest) = (value s >>= fun p => rest (f p.1, p.2)) := by
  rw [mapped]
  cases value s <;> rfl

theorem map_bind {ε : Type} (x : Except ε α) (rest : α → Except ε β) (f : β → γ) :
    (x >>= rest).map f = (x >>= fun a => (rest a).map f) := by
  cases x <;> rfl

theorem mapped_mapped (g : β → γ) (f : α → β) (value : Reader α) :
    mapped g (mapped f value) = mapped (g ∘ f) value := by
  funext s
  simp only [mapped]
  cases value s <;> rfl

theorem item?_mapped (f : α → β) (item : Reader α) (close : Char) (first : Bool) :
    item? close (mapped f item) first = mapped (Option.map f) (item? close item first) := by
  funext s
  rw [mapped, item?, item?, map_bind]
  congr 1
  funext ⟨more, r⟩
  cases more with
  | false => rfl
  | true =>
    simp only [mapped_bind, map_bind]
    rfl

theorem itemsFrom_mapped (f : α → β) (item : Reader α) (close : Char) (fuel : Nat) (first : Bool) :
    itemsFrom close (mapped f item) fuel first =
      mapped (List.map f) (itemsFrom close item fuel first) := by
  induction fuel generalizing first with
  | zero => rfl
  | succ fuel ih =>
    funext s
    rw [mapped, itemsFrom, itemsFrom, item?_mapped, mapped_bind, map_bind]
    congr 1
    funext ⟨x, r⟩
    cases x with
    | none => rfl
    | some x =>
      simp only [Option.map_some, ih, mapped_bind, map_bind]
      rfl

theorem between_mapped (f : α → β) (b : Bracket) (inside : Reader α) :
    between b (mapped f inside) = mapped f (between b inside) := by
  funext s
  change between b (mapped f inside) s = (between b inside s).map _
  simp only [between]
  cases skipGap s with
  | nil => rfl
  | cons c r =>
    simp only [apply_ite (Except.map _), mapped_bind, map_bind]
    rfl

theorem field_mapped (f : α → β) (value : Reader α) :
    field (mapped f value) = mapped (Prod.map id f) (field value) := by
  funext s
  simp only [mapped, field, map_bind]
  congr 1
  funext k
  congr 1
  funext m
  exact mapped_bind f value m.2 _

theorem fieldsOf_mapped (f : α → β) (value : Reader α) :
    fieldsOf (mapped f value) = mapped (List.map (Prod.map id f)) (fieldsOf value) := by
  rw [fieldsOf, fieldsOf, field_mapped, ← between_mapped]
  congr 1
  funext s
  rw [items, itemsFrom_mapped]
  rfl

theorem readAll_mapped (f : α → β) (value : Reader α) (text : String) :
    readAll (mapped f value) text = (readAll value text).map f := by
  rw [readAll, readAll, mapped_bind]
  cases value text.toList with
  | error fault => rfl
  | ok p =>
    change (if skipGap p.2 = [] then _ else _) = Except.map f (if skipGap p.2 = [] then _ else _)
    split <;> rfl

end Reader

end Json

end BenchTracker

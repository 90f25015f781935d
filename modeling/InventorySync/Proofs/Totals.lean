import InventorySync.Proofs.Invariants

/-!
How many items some slots hold together. What is taken out of a slot is in hand until it is
placed again, and nothing is lost on the way as long as no stack overflows, which cannot happen
while there are at most 65535 items, those in hand included. The steps of the compiler are
followed with what is in hand before and after each of them, whatever slots coincide.
-/

namespace InventorySync

set_option autoImplicit false

namespace Item

theorem amount_of_empty {item : Item} (none : item.isEmpty) : item.amount = 0 := if_pos none

theorem amount_of_filled {item : Item} (filled : ¬item.isEmpty) :
    item.amount = item.count.toNat := if_neg filled

theorem amount_le (item : Item) : item.amount ≤ 65535 := by
  have bound := item.count.toNat_lt
  unfold amount
  split <;> omega

theorem typeId_of_filled {item : Item} (filled : ¬item.isEmpty) : item.typeId ≠ 0 := by
  intro air
  exact filled (by simp [isEmpty, air])

theorem amount_recount {item : Item} (kind : item.typeId ≠ 0) (count : UInt16) :
    ({ item with count } : Item).amount = count.toNat := by
  by_cases none : count = 0
  · simp [amount, isEmpty, none]
  · simp [amount, isEmpty, none, kind]

theorem amount_withUserData (item : Item) (userData : Option Nbt.Compound) :
    ({ item with userData } : Item).amount = item.amount := rfl

theorem toNat_min (left right : UInt16) :
    (min left right).toNat = min left.toNat right.toNat := by
  change (if left ≤ right then left else right).toNat = _
  rw [Nat.min_def]
  split
  · next smaller => rw [if_pos (UInt16.le_iff_toNat_le.1 smaller)]
  · next larger => rw [if_neg fun smaller => larger (UInt16.le_iff_toNat_le.2 smaller)]

/-- Items are split off as far as there are any, and the others stay. -/
theorem amount_split (item : Item) (wanted : UInt8) :
    (item.split wanted).1.amount = min wanted.toNat item.amount ∧
      (item.split wanted).2.amount + min wanted.toNat item.amount = item.amount := by
  unfold split
  by_cases none : item.isEmpty
  · have nothing : empty.amount = 0 := by decide
    rw [if_pos none, amount_of_empty none, nothing]
    simp
  · have kind := typeId_of_filled none
    have taken : (min wanted.toUInt16 item.count).toNat = min wanted.toNat item.count.toNat := by
      rw [toNat_min, UInt8.toNat_toUInt16]
    have left : (item.count - min wanted.toUInt16 item.count).toNat =
        item.count.toNat - min wanted.toNat item.count.toNat := by
      rw [UInt16.toNat_sub_of_le, taken]
      rw [UInt16.le_iff_toNat_le, taken]
      exact Nat.min_le_right _ _
    have kept : (if item.count - min wanted.toUInt16 item.count = 0 then empty
        else { item with count := item.count - min wanted.toUInt16 item.count }).amount =
          (item.count - min wanted.toUInt16 item.count).toNat := by
      split
      · next gone =>
          rw [gone]
          rfl
      · exact amount_recount kind _
    rw [if_neg none, amount_of_filled none]
    constructor
    · exact (amount_recount kind _).trans taken
    · rw [kept, left]
      omega

/-- A stack grows by what is put onto it until it is full. -/
theorem amount_stackOnto (present added : Item) :
    (present.stackOnto added).amount =
      present.amount + min added.amount (65535 - present.amount) := by
  have bound := added.amount_le
  unfold stackOnto
  by_cases nothing : added.isEmpty
  · rw [if_pos nothing, amount_of_empty nothing]
    simp
  · rw [if_neg nothing]
    by_cases none : present.isEmpty
    · rw [if_pos none, amount_of_empty none]
      omega
    · have filled := present.amount_le
      rw [amount_of_filled nothing] at bound
      rw [amount_of_filled none] at filled
      rw [if_neg none, amount_of_filled nothing, amount_recount (typeId_of_filled none),
        amount_of_filled none]
      unfold addCounts
      rw [UInt16.toNat_ofNat_of_lt' (by simp only [UInt16.size]; omega)]
      omega

end Item

namespace Items

/-- The items in these slots together. -/
def total (slots : Finset Location) (items : Items) : Nat :=
  ∑ location ∈ slots, (items location).amount

variable {slots : Finset Location} {items : Items} {location : Location}

theorem amount_le_total (member : location ∈ slots) :
    (items location).amount ≤ items.total slots :=
  Finset.single_le_sum (f := fun location => (items location).amount) (fun _ _ => Nat.zero_le _)
    member

theorem total_put (member : location ∈ slots) (item : Item) :
    (items.put location item).total slots + (items location).amount =
      items.total slots + item.amount := by
  have elsewhere : ∀ other ∈ slots.erase location,
      (items.put location item other).amount = (items other).amount := by
    intro other inside
    rw [put_of_ne (Finset.ne_of_mem_erase inside)]
  have here : items.put location item location = item := if_pos rfl
  unfold total
  rw [← Finset.add_sum_erase slots _ member, ← Finset.add_sum_erase slots _ member,
    Finset.sum_congr rfl elsewhere, here]
  omega

/-- What was taken is in hand. -/
theorem total_take (member : location ∈ slots) (count : UInt8) :
    (items.take location count).total slots + (items.taken location count).amount =
      items.total slots := by
  have put := @total_put slots items location member ((items location).split count).2
  have split := (items location).amount_split count
  unfold take taken
  omega

theorem total_place (member : location ∈ slots) (item : Item) :
    (items.place location item).total slots =
      items.total slots + min item.amount (65535 - (items location).amount) := by
  have put := @total_put slots items location member ((items location).stackOnto item)
  rw [Item.amount_stackOnto] at put
  unfold place
  omega

/-- A move loses what does not fit onto the stack at its target. -/
theorem total_move {target : Location} (member : location ∈ slots) (there : target ∈ slots)
    (count : UInt8) :
    (Operation.effect (.move location target count) items).total slots ≤ items.total slots ∧
      (items.total slots ≤ 65535 →
        (Operation.effect (.move location target count) items).total slots =
          items.total slots) := by
  have taken := @total_take slots items location member count
  have placed := @total_place slots (items.take location count) target there
    (items.taken location count)
  have present := @amount_le_total slots (items.take location count) target there
  change total slots (place _ _ _) ≤ _ ∧ (_ → total slots (place _ _ _) = _)
  constructor
  · omega
  · intro few
    omega

theorem total_swap {other : Location} (member : location ∈ slots) (there : other ∈ slots) :
    (Operation.effect (.swap location other) items).total slots = items.total slots := by
  have first := @total_put slots items location member (items other)
  have second := @total_put slots (items.put location (items other)) other there (items location)
  change total slots (put (put _ _ _) _ _) = _
  by_cases same : other = location
  · subst same
    have here : items.put other (items other) other = items other := if_pos rfl
    rw [here] at second
    omega
  · rw [put_of_ne same] at second
    omega

end Items

namespace Compile

/-- The items as the next operation will find them. -/
abbrev Draft.items (draft : Draft) (inventory : Inventory) : Items :=
  draft.overlay.itemAt inventory

/-- Between the two drafts no item appears, counting what is in hand before and afterwards, and
none is lost unless there are too many. -/
structure Conserves (inventory : Inventory) (slots : Finset Location) (held left : Nat)
    (draft after : Draft) : Prop where
  grows : ∀ location ∈ draft.touched, location ∈ after.touched
  bounded : (∀ location ∈ after.touched, location ∈ slots) →
    (after.items inventory).total slots + left ≤
      (draft.items inventory).total slots + held
  exact : (∀ location ∈ after.touched, location ∈ slots) →
    (draft.items inventory).total slots + held ≤ 65535 →
    (after.items inventory).total slots + left =
      (draft.items inventory).total slots + held

section Logic

variable {inventory : Inventory} {slots : Finset Location} {held middle left : Nat}
  {draft between after : Draft} {α β : Type}

theorem Conserves.trans (first : Conserves inventory slots held middle draft between)
    (second : Conserves inventory slots middle left between after) :
    Conserves inventory slots held left draft after := by
  have within (inside : ∀ location ∈ after.touched, location ∈ slots) :
      ∀ location ∈ between.touched, location ∈ slots :=
    fun location touched => inside location (second.grows location touched)
  constructor
  · intro location touched
    exact second.grows location (first.grows location touched)
  · intro inside
    exact (second.bounded inside).trans (first.bounded (within inside))
  · intro inside few
    have began := first.exact (within inside) few
    rw [second.exact inside (began ▸ few), began]

theorem Conserves.same (items : after.items inventory = draft.items inventory)
    (touched : after.touched = draft.touched) :
    Conserves inventory slots held held draft after := by
  constructor
  · intro location named
    rw [touched]
    exact named
  · intro _
    rw [items]
  · intro _ _
    rw [items]

theorem Changes.conserves {named : List Location} {effect : Items → Items}
    (changes : Changes inventory named effect draft after)
    (bounded : (∀ location ∈ named, location ∈ slots) →
      (effect (draft.items inventory)).total slots + left ≤
        (draft.items inventory).total slots + held)
    (exact : (∀ location ∈ named, location ∈ slots) →
      (draft.items inventory).total slots + held ≤ 65535 →
      (effect (draft.items inventory)).total slots + left =
        (draft.items inventory).total slots + held) :
    Conserves inventory slots held left draft after := by
  have within (inside : ∀ location ∈ after.touched, location ∈ slots) :
      ∀ location ∈ named, location ∈ slots :=
    fun location member => inside location ((changes.touched location).2 (Or.inr member))
  have items : after.items inventory = effect (draft.items inventory) := changes.items
  constructor
  · intro location touched
    exact (changes.touched location).2 (Or.inl touched)
  · intro inside
    rw [items]
    exact bounded (within inside)
  · intro inside few
    rw [items]
    exact exact (within inside) few

/-- The action goes on from what is in hand, and leaves in hand what its answer allows. -/
def Carries (inventory : Inventory) (slots : Finset Location) (held : Nat)
    (left : α → Nat → Prop) (action : Action α) : Prop :=
  ∀ draft answer after, action draft = .ok (answer, after) →
    ∃ rest, left answer rest ∧ Conserves inventory slots held rest draft after

theorem Carries.bind {leaves : α → Nat → Prop} {last : β → Nat → Prop} {first : Action α}
    {next : α → Action β} (head : Carries inventory slots held leaves first)
    (tail : ∀ answer rest, leaves answer rest →
      Carries inventory slots rest last (next answer)) :
    Carries inventory slots held last (first >>= next) := by
  intro draft answer after ran
  obtain ⟨found, between, began, ended⟩ := bind_ok.1 ran
  obtain ⟨rest, allowed, one⟩ := head draft found between began
  obtain ⟨final, finished, two⟩ := tail found rest allowed between answer after ended
  exact ⟨final, finished, one.trans two⟩

/-- What is in hand stays there. -/
def Stays (held : Nat) (_ : α) (rest : Nat) : Prop := rest = held

theorem Carries.andThen {last : β → Nat → Prop} {first : Action α} {next : α → Action β}
    (head : Carries inventory slots held (Stays held) first)
    (tail : ∀ answer, Carries inventory slots held last (next answer)) :
    Carries inventory slots held last (first >>= next) :=
  head.bind fun answer _ same => same ▸ tail answer

theorem Carries.weaken {leaves others : α → Nat → Prop} {action : Action α}
    (carries : Carries inventory slots held leaves action)
    (weaker : ∀ answer rest, leaves answer rest → others answer rest) :
    Carries inventory slots held others action := by
  intro draft answer after ran
  obtain ⟨rest, allowed, conserves⟩ := carries draft answer after ran
  exact ⟨rest, weaker answer rest allowed, conserves⟩

theorem Carries.pure (answer : α) :
    Carries inventory slots held (Stays held) (pure answer) := by
  intro draft other after ran
  obtain ⟨-, rfl⟩ := pure_ok.1 ran
  exact ⟨held, rfl, .same rfl rfl⟩

theorem Carries.lift (result : Except SyncError α) :
    Carries inventory slots held (Stays held) (liftM result) := by
  intro draft answer after ran
  obtain ⟨-, rfl⟩ := lift_ok.1 ran
  exact ⟨held, rfl, .same rfl rfl⟩

theorem Carries.get : Carries inventory slots held (Stays held) get := by
  intro draft answer after ran
  obtain ⟨-, rfl⟩ := get_ok.1 ran
  exact ⟨held, rfl, .same rfl rfl⟩

theorem Carries.modify {change : Draft → Draft}
    (overlay : ∀ draft, (change draft).overlay = draft.overlay)
    (touched : ∀ draft, (change draft).touched = draft.touched) :
    Carries inventory slots held (Stays held) (modify change) := by
  intro draft answer after ran
  rw [← modify_ok.1 ran]
  exact ⟨held, rfl, .same (by unfold Draft.items; rw [overlay]) (touched draft)⟩

end Logic

end Compile

end InventorySync

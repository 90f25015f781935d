import InventorySync.Item.DisplayName

/-!
What it does to user data to give an item another name. Everything but the name keeps its value,
no empty compound is left behind, and of two names only the later one counts. The last is so
because an edit depends on nothing but the entries beside the display compound and those beside
the name in it; both come through an edit unchanged. A tag of another type in the place of the
display compound is the one exception: a name replaces it, and to take the name away again does
not bring it back.
-/

namespace InventorySync

set_option autoImplicit false

namespace Nbt.Compound

variable (compound : Compound) (name other : String) (tag : Tag)

theorem erase_erase : erase (erase compound name) name = erase compound name := by
  unfold erase Keyed.erase
  rw [List.filter_filter]
  apply List.filter_congr
  intro entry _
  rw [Bool.and_self]

theorem erase_comm :
    erase (erase compound name) other = erase (erase compound other) name := by
  unfold erase Keyed.erase
  rw [List.filter_filter, List.filter_filter]
  apply List.filter_congr
  intro entry _
  rw [Bool.and_comm]

theorem erase_cons_of_ne {name other : String} (differs : name ≠ other) :
    erase ((name, tag) :: compound) other = (name, tag) :: erase compound other := by
  unfold erase Keyed.erase
  exact List.filter_cons_of_pos (by simpa using differs)

theorem erase_set : erase (set compound name tag) name = erase compound name := by
  change Keyed.erase ((name, tag) :: Keyed.erase compound name) name = Keyed.erase compound name
  have again := erase_erase compound name
  unfold erase Keyed.erase at again
  unfold Keyed.erase
  rw [List.filter_cons_of_neg (by simp), again]

/-- What is put under a name depends on the other entries only. -/
theorem set_congr {left right : Compound} (same : erase left name = erase right name) :
    set left name tag = set right name tag :=
  congrArg ((name, tag) :: ·) same

theorem set_set (first second : Tag) :
    set (set compound name first) name second = set compound name second :=
  set_congr name second (erase_set compound name first)

theorem erase_of_absent {compound : Compound} {name : String}
    (absent : get? compound name = none) : erase compound name = compound := by
  apply List.filter_eq_self.2
  intro entry member
  have differs := List.lookup_eq_none_iff.1 absent entry member
  simpa using Ne.symm (bne_iff_ne.1 differs)

end Nbt.Compound

namespace DisplayName

open Nbt (Compound Tag)

/-- An entry of user data, which there is only if there is user data. -/
def entry? (userData : Option Compound) (key : String) : Option Tag :=
  userData.bind fun root => Compound.get? root key

/-- The place of the display compound is free, or it is there. -/
def Displayable (userData : Option Compound) : Prop :=
  entry? userData displayKey = none ∨
    ∃ display, entry? userData displayKey = some (.compound display)

theorem Displayable.root {userData : Option Compound} (fits : Displayable userData) :
    Displayable (some (userData.getD [])) := by
  cases userData with
  | none => exact Or.inl rfl
  | some root => exact fits

/-- The root compound under another name. It may be left without entries. -/
def edited (root : Compound) (name : String) : Compound :=
  if name = "" then removeFrom root else write (some root) name

/-- A root compound, from the entries beside the display compound, those beside the name in it,
and the name. -/
def assembled (rest others : Compound) (name : String) : Compound :=
  if name = "" then
    if others.isEmpty then rest else (displayKey, .compound others) :: rest
  else
    (displayKey, .compound ((nameKey, .string name) :: others)) :: rest

section Roots

variable (root : Compound) {name : String}

theorem getD_unlessEmpty : (unlessEmpty root).getD [] = root := by
  unfold unlessEmpty
  split
  · next empty => exact (List.isEmpty_iff.1 empty).symm
  · rfl

theorem entry?_unlessEmpty (key : String) :
    entry? (unlessEmpty root) key = Compound.get? root key := by
  unfold unlessEmpty
  split
  · next empty =>
      rw [List.isEmpty_iff.1 empty]
      rfl
  · rfl

theorem patch_eq (userData : Option Compound) (name : String) :
    patch userData name = unlessEmpty (edited (userData.getD []) name) := by
  unfold patch edited
  split
  · cases userData with
    | none => rfl
    | some root => rfl
  · rfl

theorem getD_patch (userData : Option Compound) (name : String) :
    (patch userData name).getD [] = edited (userData.getD []) name := by
  rw [patch_eq, getD_unlessEmpty]

theorem read?_eq (userData : Option Compound) :
    read? userData =
      (Compound.get? (displayOf (userData.getD [])) nameKey).bind Tag.string? := by
  cases userData with
  | none => rfl
  | some root =>
      change ((Compound.get? root displayKey).bind fun tag => tag.compound?.bind fun display =>
        (Compound.get? display nameKey).bind Tag.string?) = _
      unfold displayOf
      rw [Option.getD_some, ← Option.bind_assoc]
      cases (Compound.get? root displayKey).bind Tag.compound? with
      | none => rfl
      | some display => rfl

variable {root}

theorem displayOf_of_compound {display : Compound}
    (found : Compound.get? root displayKey = some (.compound display)) :
    displayOf root = display := by
  unfold displayOf
  rw [found]
  rfl

theorem displayOf_of_other
    (other : ∀ display, Compound.get? root displayKey ≠ some (.compound display)) :
    displayOf root = [] := by
  unfold displayOf
  cases found : Compound.get? root displayKey with
  | none => rfl
  | some tag =>
      cases tag with
      | compound display => exact absurd found (other display)
      | _ => rfl

variable (root) (name)

/-- In the display compound an edit touches the name alone. -/
theorem displayOf_edited :
    displayOf (edited root name) =
      if name = "" then Compound.erase (displayOf root) nameKey
      else Compound.set (displayOf root) nameKey (.string name) := by
  unfold edited
  split
  · unfold removeFrom
    split
    · next display found =>
        rw [displayOf_of_compound found]
        simp only
        split
        · next bare =>
            have none : Compound.get? (Compound.erase root displayKey) displayKey = none := by
              rw [Compound.get?_erase, if_pos rfl]
            rw [displayOf_of_other (by simp [none]), List.isEmpty_iff.1 bare]
        · apply displayOf_of_compound
          rw [Compound.get?_set, if_pos rfl]
    · next other =>
        rw [displayOf_of_other fun display found => other display found]
        rfl
  · apply displayOf_of_compound
    unfold write
    rw [Compound.get?_set, if_pos rfl, Option.getD_some]

theorem erase_displayOf_edited :
    Compound.erase (displayOf (edited root name)) nameKey =
      Compound.erase (displayOf root) nameKey := by
  rw [displayOf_edited]
  split
  · exact Compound.erase_erase _ _
  · exact Compound.erase_set _ _ _

/-- Beside the display compound an edit touches nothing. -/
theorem erase_edited :
    Compound.erase (edited root name) displayKey = Compound.erase root displayKey := by
  unfold edited
  split
  · unfold removeFrom
    split
    · next display found =>
        simp only
        split
        · exact Compound.erase_erase _ _
        · exact Compound.erase_set _ _ _
    · rfl
  · exact Compound.erase_set _ _ _

theorem get?_edited {key : String} (beside : key ≠ displayKey) :
    Compound.get? (edited root name) key = Compound.get? root key := by
  have same := congrArg (Compound.get? · key) (erase_edited root name)
  simpa only [Compound.get?_erase, if_neg beside] using same

variable {root name}

theorem edited_of_named (named : name ≠ "") :
    edited root name =
      assembled (Compound.erase root displayKey) (Compound.erase (displayOf root) nameKey)
        name := by
  unfold edited assembled
  rw [if_neg named, if_neg named]
  rfl

theorem edited_of_displayable (fits : Displayable (some root)) :
    edited root name =
      assembled (Compound.erase root displayKey) (Compound.erase (displayOf root) nameKey)
        name := by
  by_cases named : name = ""
  · unfold edited assembled removeFrom
    rw [if_pos named, if_pos named]
    rcases fits with absent | ⟨display, found⟩
    · change Compound.get? root displayKey = none at absent
      rw [displayOf_of_other (by simp [absent]), Compound.erase_of_absent absent, absent]
      rfl
    · change Compound.get? root displayKey = some (.compound display) at found
      rw [displayOf_of_compound found, found]
      rfl
  · exact edited_of_named named

theorem displayable_edited (fits : Displayable (some root)) (name : String) :
    Displayable (some (edited root name)) := by
  change Compound.get? (edited root name) displayKey = none ∨
    ∃ display, Compound.get? (edited root name) displayKey = some (.compound display)
  rw [edited_of_displayable fits]
  have absent : Compound.get? (Compound.erase root displayKey) displayKey = none := by
    rw [Compound.get?_erase, if_pos rfl]
  unfold assembled
  split
  · split
    · exact Or.inl absent
    · exact Or.inr ⟨_, (Keyed.lookup_cons _ _ _ _).trans (if_pos rfl)⟩
  · exact Or.inr ⟨_, (Keyed.lookup_cons _ _ _ _).trans (if_pos rfl)⟩

/-- Of two names the later one counts. -/
theorem edited_edited {first second : String} (settled : second ≠ "" ∨ Displayable (some root)) :
    edited (edited root first) second = edited root second := by
  rcases settled with named | fits
  · rw [edited_of_named named, erase_edited, erase_displayOf_edited, ← edited_of_named named]
  · rw [edited_of_displayable (displayable_edited fits first), erase_edited,
      erase_displayOf_edited, ← edited_of_displayable fits]

variable (root name)

theorem edited_same : edited (edited root name) name = edited root name := by
  by_cases fits : Displayable (some root)
  · exact edited_edited (Or.inr fits)
  · by_cases named : name = ""
    · have untouched : edited root name = root := by
        unfold edited removeFrom
        rw [if_pos named]
        split
        · next display found => exact absurd (Or.inr ⟨display, found⟩) fits
        · rfl
      rw [untouched, untouched]
    · exact edited_edited (Or.inl named)

/-- To erase an entry beside the display compound is one thing before an edit and after it. -/
theorem erase_edited_comm {root : Compound} {key : String} (fits : Displayable (some root))
    (beside : key ≠ displayKey) :
    Compound.erase (edited root name) key = edited (Compound.erase root key) name := by
  have display : Compound.get? (Compound.erase root key) displayKey =
      Compound.get? root displayKey := by
    rw [Compound.get?_erase, if_neg beside.symm]
  have still : Displayable (some (Compound.erase root key)) := by
    change Compound.get? (Compound.erase root key) displayKey = none ∨
      ∃ display, Compound.get? (Compound.erase root key) displayKey = some (.compound display)
    rw [display]
    exact fits
  have same : displayOf (Compound.erase root key) = displayOf root := by
    unfold displayOf
    rw [display]
  rw [edited_of_displayable fits, edited_of_displayable still, same, Compound.erase_comm]
  unfold assembled
  split
  · split
    · rfl
    · exact Compound.erase_cons_of_ne _ _ beside.symm
  · exact Compound.erase_cons_of_ne _ _ beside.symm

/-- What an entry beside the display compound was before an edit is nothing to what replaces it
after the edit. -/
theorem set_edited_set {root : Compound} {key : String} (fits : Displayable (some root))
    (beside : key ≠ displayKey) (first second : Tag) :
    Compound.set (edited (Compound.set root key first) name) key second =
      Compound.set (edited root name) key second := by
  have still : Displayable (some (Compound.set root key first)) := by
    change Compound.get? (Compound.set root key first) displayKey = none ∨
      ∃ display, Compound.get? (Compound.set root key first) displayKey = some (.compound display)
    rw [Compound.get?_set, if_neg beside.symm]
    exact fits
  apply Compound.set_congr
  rw [erase_edited_comm name still beside, Compound.erase_set, ← erase_edited_comm name fits beside]

end Roots

/-- What giving a name, or taking it away, makes of user data. -/
structure Patched (before : Option Compound) (name : String) (after : Option Compound) :
    Prop where
  reads : read? after = if name = "" then none else some name
  beside : ∀ key ≠ displayKey, entry? after key = entry? before key
  /-- The entries of the display compound. There are none if it is not there, or another tag is. -/
  inside : ∀ key ≠ nameKey,
    Compound.get? (displayOf (after.getD [])) key = Compound.get? (displayOf (before.getD [])) key
  rootFilled : after ≠ some []
  displayFilled : name = "" → entry? after displayKey ≠ some (.compound [])

theorem patched_patch (userData : Option Compound) (name : String) :
    Patched userData name (patch userData name) := by
  have kept := getD_patch userData name
  have display := displayOf_edited (userData.getD []) name
  constructor
  case reads =>
    rw [read?_eq, kept, display]
    split
    · rw [Compound.get?_erase, if_pos rfl]
      rfl
    · rw [Compound.get?_set, if_pos rfl]
      rfl
  case beside =>
    intro key differs
    rw [patch_eq, entry?_unlessEmpty, get?_edited _ _ differs]
    cases userData <;> rfl
  case inside =>
    intro key differs
    rw [kept, display]
    split
    · rw [Compound.get?_erase, if_neg differs]
    · rw [Compound.get?_set, if_neg differs]
  case rootFilled =>
    rw [patch_eq]
    unfold unlessEmpty
    split
    · exact Option.some_ne_none _ |>.symm
    · next filled =>
        intro bare
        rw [Option.some.inj bare] at filled
        exact filled rfl
  case displayFilled =>
    intro unnamed bare
    rw [patch_eq, entry?_unlessEmpty] at bare
    unfold edited removeFrom at bare
    rw [if_pos unnamed] at bare
    split at bare
    · next display _ =>
        simp only at bare
        split at bare
        · rw [Compound.get?_erase, if_pos rfl] at bare
          cases bare
        · next filled =>
            rw [Compound.get?_set, if_pos rfl] at bare
            exact filled (List.isEmpty_iff.2 (Tag.compound.inj (Option.some.inj bare)))
    · next other => exact other [] bare

theorem patch_patch {userData : Option Compound} (fits : Displayable userData)
    (first second : String) : patch (patch userData first) second = patch userData second := by
  rw [patch_eq (patch userData first), getD_patch, edited_edited (Or.inr fits.root), ← patch_eq]

theorem patch_same (userData : Option Compound) (name : String) :
    patch (patch userData name) name = patch userData name := by
  rw [patch_eq (patch userData name), getD_patch, edited_same, ← patch_eq]

/-- A patch changes the name and nothing else, and leaves no wrapper without content. Of several
patches the last one counts, unless another tag stood in the place of the display compound. -/
theorem patching_is_exact (userData : Option Compound) (name : String) :
    Patched userData name (patch userData name) ∧
      (Displayable userData →
        ∀ later, patch (patch userData name) later = patch userData later) :=
  ⟨patched_patch userData name, fun fits later => patch_patch fits name later⟩

/-- A worn tool that has a name and an inscription. -/
def inscribed : Option Compound :=
  some [("Damage", .short 3), ("display", .compound [("Name", .string "Old"), ("Lore", .list [])])]

theorem inscription_outlives_names :
    Displayable inscribed ∧ patch inscribed "" =
        some [("display", .compound [("Lore", .list [])]), ("Damage", .short 3)] ∧
      Patched inscribed "" (patch inscribed "") ∧
      patch (patch inscribed "") "New" = patch inscribed "New" := by
  have fits : Displayable inscribed := Or.inr ⟨_, rfl⟩
  obtain ⟨patched, settled⟩ := patching_is_exact inscribed ""
  exact ⟨fits, by decide +kernel, patched, settled fits "New"⟩

/-- A tag of another type is replaced by a name, and does not come back with the name's removal. -/
example :
    patch (some [("display", .int 1)]) "" = some [("display", .int 1)] ∧
      patch (patch (some [("display", .int 1)]) "New") "" = none := by
  decide +kernel

end DisplayName

end InventorySync

/-
# An object store

Objects by key. A write can be told to refuse an existing key, a read has a
bound, and a request can fail: a write that fails may have been carried out, and
so may a removal, or a part of it.
-/

import CultureShift.Storage.Files

namespace Storage

namespace FileProgram

variable {K C : Type} [DecidableEq K] {ε α : Type} (failure : ε)

/-- One request. -/
def request (broken : Damage C → Files K C → Files K C)
    (effect : Files K C → Except ε α × Files K C) : FileProgram K C ε α := fun disk =>
  match disk.fault with
  | some ⟨0, damage⟩ => .error failure ⟨broken damage disk.files, none⟩
  | fault =>
      let fault := fault.map fun fault => { fault with after := fault.after - 1 }
      match effect disk.files with
      | (.ok value, files) => .ok value ⟨files, fault⟩
      | (.error error, files) => .error error ⟨files, fault⟩

/-- `put`. An existing key is `taken` when it must be created. -/
def put (taken : ε) (key : K) (content : C) (createOnly : Bool) : FileProgram K C ε Unit :=
  request failure
    (fun damage objects =>
      if createOnly && (objects.get? key).isSome then objects
      else if damage.left.isSome then objects.write key content
      else objects)
    fun objects =>
      if createOnly && (objects.get? key).isSome then (.error taken, objects)
      else (.ok (), objects.write key content)

/-- `get`, where the object has at most `maxBytes`. -/
def get (missing : ε) (size : C → Nat) (key : K) (maxBytes : Nat) : FileProgram K C ε C :=
  request failure (fun _ objects => objects) fun objects =>
    match objects.get? key with
    | some content =>
        if size content ≤ maxBytes then (.ok content, objects) else (.error failure, objects)
    | none => (.error missing, objects)

/-- `delete`, with the number of objects that were there. -/
def deleteObjects (keys : List K) : FileProgram K C ε Nat :=
  request failure (fun damage objects => objects.removeAll (damage.among keys)) fun objects =>
    (.ok (keys.filter fun key => (objects.get? key).isSome).length, objects.removeAll keys)

variable {failure} {missing taken : ε} {post : α → Disk K C → Prop}
  {failed : ε → Disk K C → Prop} {objects : Files K C} {fault : Option (Fault C)} {key : K}
  {content : C}

section Struck

variable {after : Files K C} {broken : Damage C → Files K C → Files K C}
  {effect : Files K C → Except ε α × Files K C}

/-- A request that can be carried out fails only when it is struck. -/
theorem ensures_request_ok {value : α} (heffect : effect objects = (.ok value, after))
    (hstruck : ∀ damage, fault = some ⟨0, damage⟩ →
      failed failure ⟨broken damage objects, none⟩)
    (hpost : ¬Strikes fault 0 → post value ⟨after, next fault⟩) :
    Ensures (request failure broken effect) ⟨objects, fault⟩ post failed := by
  unfold Ensures request
  rcases fault with _ | ⟨_ | count, damage⟩
  · simp only [heffect]
    exact hpost (by simp [Strikes])
  · exact hstruck damage rfl
  · simp only [heffect]
    exact hpost (by simp [Strikes])

/-- A request that is refused fails either way. -/
theorem ensures_request_error {error : ε} (heffect : effect objects = (.error error, after))
    (hstruck : ∀ damage, fault = some ⟨0, damage⟩ →
      failed failure ⟨broken damage objects, none⟩)
    (hfailed : ¬Strikes fault 0 → failed error ⟨after, next fault⟩) :
    Ensures (request failure broken effect) ⟨objects, fault⟩ post failed := by
  unfold Ensures request
  rcases fault with _ | ⟨_ | count, damage⟩
  · simp only [heffect]
    exact hfailed (by simp [Strikes])
  · exact hstruck damage rfl
  · simp only [heffect]
    exact hfailed (by simp [Strikes])

/-- A write of a new key, or over an old one. One that is struck may have been carried out. -/
theorem ensures_put_struck {post : Unit → Disk K C → Prop} {createOnly : Bool}
    (hfree : createOnly = true → objects.get? key = none)
    (hstruck : Strikes fault 0 → failed failure ⟨objects, none⟩ ∧
      failed failure ⟨objects.write key content, none⟩)
    (hpost : ¬Strikes fault 0 → post () ⟨objects.write key content, next fault⟩) :
    Ensures (put failure taken key content createOnly) ⟨objects, fault⟩ post failed := by
  have hnot : ¬(createOnly && (objects.get? key).isSome) = true := by
    rw [Bool.and_eq_true]
    rintro ⟨hcreate, hsome⟩
    rw [hfree hcreate] at hsome
    cases hsome
  apply ensures_request_ok
  · exact if_neg hnot
  · intro damage hdamage
    rw [if_neg hnot]
    split_ifs
    · exact (hstruck ⟨damage, hdamage⟩).2
    · exact (hstruck ⟨damage, hdamage⟩).1
  · exact hpost

theorem ensures_put_taken_struck {post : Unit → Disk K C → Prop} {other : C}
    (htaken : objects.get? key = some other)
    (hstruck : Strikes fault 0 → failed failure ⟨objects, none⟩)
    (hrefused : ¬Strikes fault 0 → failed taken ⟨objects, next fault⟩) :
    Ensures (put failure taken key content true) ⟨objects, fault⟩ post failed := by
  have hpresent : (true && (objects.get? key).isSome) = true := by
    rw [htaken]
    rfl
  apply ensures_request_error
  · exact if_pos hpresent
  · intro damage hdamage
    rw [if_pos hpresent]
    exact hstruck ⟨damage, hdamage⟩
  · exact hrefused

theorem ensures_get_none_struck {post : C → Disk K C → Prop} {size : C → Nat} {maxBytes : Nat}
    (hobject : objects.get? key = none)
    (hstruck : Strikes fault 0 → failed failure ⟨objects, none⟩)
    (hmissing : ¬Strikes fault 0 → failed missing ⟨objects, next fault⟩) :
    Ensures (get failure missing size key maxBytes) ⟨objects, fault⟩ post failed := by
  refine ensures_request_error (?_ : _ = (Except.error missing, objects)) ?_ ?_
  · rw [hobject]
  · exact fun damage hdamage => hstruck ⟨damage, hdamage⟩
  · exact hmissing

theorem ensures_deleteObjects_struck {post : Nat → Disk K C → Prop} {keys : List K}
    (hstruck : ∀ damage, fault = some ⟨0, damage⟩ →
      failed failure ⟨objects.removeAll (damage.among keys), none⟩)
    (hpost : ¬Strikes fault 0 → post (keys.filter fun key => (objects.get? key).isSome).length
      ⟨objects.removeAll keys, next fault⟩) :
    Ensures (deleteObjects failure keys) ⟨objects, fault⟩ post failed := by
  refine ensures_request_ok (rfl : _ = (Except.ok _, _)) ?_ ?_
  · exact hstruck
  · exact hpost

end Struck

/-! ## What a request ensures -/

/-- A write of a new key, or over an old one. -/
theorem ensures_put {post : Unit → Disk K C → Prop} {createOnly : Bool}
    (hfree : createOnly = true → objects.get? key = none)
    (hfailed : fault ≠ none → failed failure ⟨objects, none⟩)
    (hcarried : fault ≠ none → failed failure ⟨objects.write key content, none⟩)
    (hpost : ∀ fault', (fault = none → fault' = none) →
      post () ⟨objects.write key content, fault'⟩) :
    Ensures (put failure taken key content createOnly) ⟨objects, fault⟩ post failed :=
  ensures_put_struck hfree (fun h => ⟨hfailed h.ne_none, hcarried h.ne_none⟩) fun _ =>
    hpost _ next_eq_none

/-- A key that exists is not created. -/
theorem ensures_put_taken {post : Unit → Disk K C → Prop} {other : C}
    (htaken : objects.get? key = some other)
    (hfailed : fault ≠ none → failed failure ⟨objects, none⟩)
    (hrefused : ∀ fault', (fault = none → fault' = none) → failed taken ⟨objects, fault'⟩) :
    Ensures (put failure taken key content true) ⟨objects, fault⟩ post failed :=
  ensures_put_taken_struck htaken (fun h => hfailed h.ne_none) fun _ => hrefused _ next_eq_none

theorem ensures_get {post : C → Disk K C → Prop} {size : C → Nat} {maxBytes : Nat}
    (hobject : objects.get? key = some content) (hsize : size content ≤ maxBytes)
    (hfailed : fault ≠ none → failed failure ⟨objects, none⟩)
    (hpost : ∀ fault', (fault = none → fault' = none) → post content ⟨objects, fault'⟩) :
    Ensures (get failure missing size key maxBytes) ⟨objects, fault⟩ post failed := by
  refine ensures_request_ok (?_ : _ = (Except.ok content, objects)) ?_ ?_
  · rw [hobject]
    exact if_pos hsize
  · exact fun damage hdamage => hfailed (Strikes.ne_none ⟨damage, hdamage⟩)
  · exact fun _ => hpost _ next_eq_none

theorem ensures_get_none {post : C → Disk K C → Prop} {size : C → Nat} {maxBytes : Nat}
    (hobject : objects.get? key = none)
    (hfailed : fault ≠ none → failed failure ⟨objects, none⟩)
    (hmissing : ∀ fault', (fault = none → fault' = none) → failed missing ⟨objects, fault'⟩) :
    Ensures (get failure missing size key maxBytes) ⟨objects, fault⟩ post failed :=
  ensures_get_none_struck hobject (fun h => hfailed h.ne_none) fun _ => hmissing _ next_eq_none

/-- Without a fault, all objects are removed. -/
theorem ensures_deleteObjects {post : Nat → Disk K C → Prop} {keys : List K}
    (hpost : post (keys.filter fun key => (objects.get? key).isSome).length
      ⟨objects.removeAll keys, none⟩) :
    Ensures (deleteObjects failure keys) ⟨objects, none⟩ post failed :=
  ensures_deleteObjects_struck nofun fun _ => hpost

end FileProgram

end Storage

import AisStation.Config.Tree
import AisStation.Proofs.Alphabet

/-!
# Trees laid over each other

Merging works on one tree and names what it changes by places, because a reference may stand for a
container elsewhere in that tree. Where no text refers to another and no value is still to be given,
only the values at the place itself count: objects are merged member by member, and anything else
is what the later tree says. This carries over from a place to the whole tree because what is put
at a place is found there, replaces what was put there before, and leaves the rest alone.
-/

namespace AisStation.Config.Tree

/-! ## Members -/

section Members

variable {name : String} {value : Json} {members : List (String × Json)}

theorem lookup_setMember (name : String) (value : Json) (members : List (String × Json)) :
    (Json.setMember name value members).lookup name = some value := by
  induction members with
  | nil => simp [Json.setMember]
  | cons m members ih =>
    obtain ⟨other, content⟩ := m
    by_cases heq : other = name
    · rw [Json.setMember, if_pos heq, heq, List.lookup_cons_self]
    · have hother : (name == other) = false := beq_false_of_ne (Ne.symm heq)
      rw [Json.setMember, if_neg heq, List.lookup_cons, hother]
      exact ih

theorem setMember_setMember (name : String) (value content : Json)
    (members : List (String × Json)) :
    Json.setMember name value (Json.setMember name content members) =
      Json.setMember name value members := by
  induction members with
  | nil => simp [Json.setMember]
  | cons m members ih =>
    obtain ⟨other, inner⟩ := m
    by_cases heq : other = name
    · simp only [Json.setMember, if_pos heq]
    · simp only [Json.setMember, if_neg heq, ih]

theorem setMember_of_lookup (h : members.lookup name = some value) :
    Json.setMember name value members = members := by
  induction members with
  | nil => contradiction
  | cons m members ih =>
    obtain ⟨other, content⟩ := m
    by_cases heq : other = name
    · subst heq
      rw [List.lookup_cons_self] at h
      rw [Json.setMember, if_pos rfl, Option.some.inj h]
    · have hother : (name == other) = false := beq_false_of_ne (Ne.symm heq)
      rw [List.lookup_cons, hother] at h
      rw [Json.setMember, if_neg heq, ih h]

end Members

/-! ## Places -/

section Places

variable {step : Step} {place : Place} {tree value content : Json}

theorem child?_setChild (value : Json) (h : child? step tree = some content) :
    child? step (setChild value step tree) = some value := by
  cases step with
  | member name =>
    cases tree with
    | object members => exact lookup_setMember name value members
    | _ => contradiction
  | item i =>
    cases tree with
    | list items =>
      obtain ⟨hi, -⟩ := List.getElem?_eq_some_iff.mp h
      exact List.getElem?_set_self hi
    | _ => contradiction

theorem setChild_setChild (value content tree : Json) (step : Step) :
    setChild value step (setChild content step tree) = setChild value step tree := by
  cases step with
  | member name =>
    cases tree with
    | object members => exact congrArg Json.object (setMember_setMember name value content members)
    | _ => rfl
  | item i =>
    cases tree with
    | list items => exact congrArg Json.list (List.set_set ..)
    | _ => rfl

theorem setChild_of_child? (h : child? step tree = some content) :
    setChild content step tree = tree := by
  cases step with
  | member name =>
    cases tree with
    | object members => exact congrArg Json.object (setMember_of_lookup h)
    | _ => contradiction
  | item i =>
    cases tree with
    | list items =>
      obtain ⟨hi, hcontent⟩ := List.getElem?_eq_some_iff.mp h
      exact congrArg Json.list (hcontent ▸ List.set_getElem_self hi)
    | _ => contradiction

theorem at?_cons (step : Step) (place : Place) (tree : Json) :
    at? (step :: place) tree = (child? step tree).bind (at? place) := rfl

theorem at?_append (place inner : Place) (tree : Json) :
    at? (place ++ inner) tree = (at? place tree).bind (at? inner) := by
  induction place generalizing tree with
  | nil => rfl
  | cons step place ih =>
    rw [List.cons_append, at?_cons, at?_cons]
    cases child? step tree with
    | none => rfl
    | some content => exact ih content

theorem at?_append_member (name : String) {members : List (String × Json)}
    (h : at? place tree = some (.object members)) :
    at? (place ++ [.member name]) tree = members.lookup name := by
  rw [at?_append, h, Option.bind_some, at?_cons]
  exact Option.bind_fun_some _

theorem at?_putAt (value : Json) (h : at? place tree = some content) :
    at? place (putAt value place tree) = some value := by
  induction place generalizing tree with
  | nil => rfl
  | cons step place ih =>
    obtain ⟨inner, hinner, hcontent⟩ := Option.bind_eq_some_iff.mp h
    rw [putAt, hinner, Option.getD_some, at?_cons, child?_setChild _ hinner]
    exact ih hcontent

theorem putAt_putAt (value other : Json) (h : at? place tree = some content) :
    putAt value place (putAt other place tree) = putAt value place tree := by
  induction place generalizing tree with
  | nil => rfl
  | cons step place ih =>
    obtain ⟨inner, hinner, hcontent⟩ := Option.bind_eq_some_iff.mp h
    rw [putAt, putAt, putAt, hinner, Option.getD_some, child?_setChild _ hinner, Option.getD_some,
      setChild_setChild, ih hcontent]

theorem putAt_of_at? (h : at? place tree = some content) : putAt content place tree = tree := by
  induction place generalizing tree with
  | nil => exact (Option.some.inj h).symm
  | cons step place ih =>
    obtain ⟨inner, hinner, hcontent⟩ := Option.bind_eq_some_iff.mp h
    rw [putAt, hinner, Option.getD_some, ih hcontent, setChild_of_child? hinner]

/-- To put a value at a member of the object at a place is to put the changed object there. -/
theorem putAt_append_member (value : Json) (name : String) {members : List (String × Json)}
    (h : at? place tree = some (.object members)) :
    putAt value (place ++ [.member name]) tree =
      putAt (.object (Json.setMember name value members)) place tree := by
  induction place generalizing tree with
  | nil =>
    obtain rfl := Option.some.inj h
    rfl
  | cons step place ih =>
    obtain ⟨inner, hinner, hobject⟩ := Option.bind_eq_some_iff.mp h
    rw [List.cons_append, putAt, putAt, hinner, Option.getD_some, ih hobject]

end Places

/-! ## Overlays -/

mutual

/-- A tree laid over what is there, if anything is: objects are laid over objects member by member,
and anything else is as in the tree. -/
def overlay (base? : Option Json) (layer : Json) : Json :=
  match layer with
  | .object members =>
    match base? with
    | some (.object base) => .object (overlayMembers base members)
    | _ => .object members
  | value => value
termination_by structural layer

/-- Members laid over those of an object. -/
def overlayMembers (base members : List (String × Json)) : List (String × Json) :=
  match members with
  | [] => base
  | (name, value) :: members =>
    overlayMembers (Json.setMember name (overlay (base.lookup name) value) base) members
termination_by structural members

end

theorem overlay_of_no_object {base? : Option Json} {members : List (String × Json)}
    (h : ∀ base, base? ≠ some (.object base)) :
    overlay base? (.object members) = .object members := by
  cases base? with
  | none => rfl
  | some value =>
    cases value with
    | object base => exact absurd rfl (h base)
    | _ => rfl

mutual

/-- Do all texts in a value have a property? -/
def everyText (p : String → Bool) : Json → Bool
  | .text s => p s
  | .list items => everyTextIn p items
  | .object members => everyTextOf p members
  | _ => true

/-- Do all texts in the items have a property? -/
def everyTextIn (p : String → Bool) : List Json → Bool
  | [] => true
  | item :: items => everyText p item && everyTextIn p items

/-- Do all texts in the members have a property? -/
def everyTextOf (p : String → Bool) : List (String × Json) → Bool
  | [] => true
  | (_, value) :: members => everyText p value && everyTextOf p members

end

section Texts

variable {p : String → Bool} {name : String} {value : Json} {members : List (String × Json)}

theorem everyText_of_lookup (h : everyTextOf p members = true)
    (hvalue : members.lookup name = some value) : everyText p value = true := by
  induction members with
  | nil => contradiction
  | cons m members ih =>
    obtain ⟨other, content⟩ := m
    obtain ⟨hcontent, hmembers⟩ := Bool.and_eq_true_iff.mp h
    rw [List.lookup_cons] at hvalue
    split at hvalue
    · exact Option.some.inj hvalue ▸ hcontent
    · exact ih hmembers hvalue

theorem everyTextOf_setMember (h : everyTextOf p members = true)
    (hvalue : everyText p value = true) :
    everyTextOf p (Json.setMember name value members) = true := by
  induction members with
  | nil => exact Bool.and_eq_true_iff.mpr ⟨hvalue, rfl⟩
  | cons m members ih =>
    obtain ⟨other, content⟩ := m
    obtain ⟨hcontent, hmembers⟩ := Bool.and_eq_true_iff.mp h
    rw [Json.setMember]
    split
    · exact Bool.and_eq_true_iff.mpr ⟨hvalue, hmembers⟩
    · exact Bool.and_eq_true_iff.mpr ⟨hcontent, ih hmembers⟩

mutual

theorem everyText_overlay {base? : Option Json} (layer : Json)
    (hbase : ∀ base, base? = some base → everyText p base = true)
    (hlayer : everyText p layer = true) : everyText p (overlay base? layer) = true := by
  match layer with
  | .object members =>
    by_cases hobject : ∃ base, base? = some (.object base)
    · obtain ⟨base, rfl⟩ := hobject
      exact everyTextOf_overlayMembers members (hbase (.object base) rfl) hlayer
    · rw [overlay_of_no_object (not_exists.mp hobject)]
      exact hlayer
  | .null | .bool _ | .int _ | .real _ | .text _ | .list _ => exact hlayer
termination_by structural layer

theorem everyTextOf_overlayMembers {base : List (String × Json)} (members : List (String × Json))
    (hbase : everyTextOf p base = true) (hmembers : everyTextOf p members = true) :
    everyTextOf p (overlayMembers base members) = true := by
  match members with
  | [] => exact hbase
  | (name, value) :: members =>
    obtain ⟨hvalue, hrest⟩ := Bool.and_eq_true_iff.mp hmembers
    have hinner : everyText p (overlay (base.lookup name) value) = true :=
      everyText_overlay value (fun _ hlookup => everyText_of_lookup hbase hlookup) hvalue
    exact everyTextOf_overlayMembers members (everyTextOf_setMember hbase hinner) hrest
termination_by structural members

end

end Texts

/-! ## Merging -/

/-- Does a text refer to no other value? -/
def isPlainText (s : String) : Bool :=
  !Template.holdsOpening s.toList

/-- Does a text stand for no value that is still to be given? -/
def isGivenText (s : String) : Bool :=
  s != "???"

/-- A tree that says all by itself: no text in it refers to another value or stands for one that is
still to be given. -/
def IsLiteral (tree : Json) : Prop :=
  everyText isPlainText tree = true ∧ everyText isGivenText tree = true

instance (tree : Json) : Decidable (IsLiteral tree) :=
  inferInstanceAs (Decidable (_ ∧ _))

theorem expandAt_of_plain {place : Place} {tree : Json}
    (h : ∀ value, at? place tree = some value → everyText isPlainText value = true) :
    expandAt place tree = tree := by
  have hnone : referredContainer? place tree = none := by
    rw [referredContainer?]
    cases hat : at? place tree with
    | none => rfl
    | some value =>
      have hplain := h value hat
      have htemplate : Template.isTemplate value = false := by
        cases value with
        | text s =>
          have hopening : (!Template.holdsOpening s.toList) = true := hplain
          rw [Bool.not_eq_true'] at hopening
          exact hopening
        | _ => rfl
      simp only [bind, Option.bind, htemplate]
      rfl
  rw [expandAt, hnone]

theorem mergeAt_scalar {layer : Json} {place : Place} {tree merged : Json}
    (hscalar : layer.isContainer = false) (hgiven : isMissing layer = false)
    (h : mergeAt layer place tree = .ok merged) : merged = putAt layer place tree := by
  cases layer with
  | object members => contradiction
  | list items => contradiction
  | _ =>
    simp only [mergeAt, hgiven, Bool.false_and, Bool.false_eq_true, if_false] at h
    exact (Except.ok.inj h).symm

mutual

/-- Without references, a value that is laid over a place changes nothing but the value there. -/
theorem mergeAt_eq {place : Place} {tree merged : Json} (layer : Json)
    (hbase : ∀ base, at? place tree = some base → everyText isPlainText base = true)
    (hplain : everyText isPlainText layer = true) (hgiven : everyText isGivenText layer = true)
    (h : mergeAt layer place tree = .ok merged) :
    merged = putAt (overlay (at? place tree) layer) place tree := by
  match layer with
  | .object members =>
    rw [mergeAt] at h
    split at h
    · rename_i base hat
      rw [hat]
      exact mergeMembersAt_eq members hat (hbase _ hat) hplain hgiven h
    · contradiction
    · rename_i hobject _
      rw [overlay_of_no_object hobject]
      exact (Except.ok.inj h).symm
  | .list items =>
    rw [mergeAt] at h
    split at h
    · contradiction
    · exact (Except.ok.inj h).symm
  | .text s =>
    have hmissing : isMissing (.text s) = false := by
      rw [isMissing, beq_eq_false_iff_ne]
      exact bne_iff_ne.mp hgiven
    exact mergeAt_scalar rfl hmissing h
  | .null | .bool _ | .int _ | .real _ => exact mergeAt_scalar rfl rfl h
termination_by structural layer

theorem mergeMembersAt_eq {place : Place} {tree merged : Json} {base : List (String × Json)}
    (members : List (String × Json)) (hat : at? place tree = some (.object base))
    (hbase : everyTextOf isPlainText base = true)
    (hplain : everyTextOf isPlainText members = true)
    (hgiven : everyTextOf isGivenText members = true)
    (h : mergeMembersAt members place tree = .ok merged) :
    merged = putAt (.object (overlayMembers base members)) place tree := by
  match members with
  | [] =>
    obtain rfl := Except.ok.inj h
    exact (putAt_of_at? hat).symm
  | (name, value) :: members =>
    obtain ⟨hplainValue, hplainRest⟩ := Bool.and_eq_true_iff.mp hplain
    obtain ⟨hgivenValue, hgivenRest⟩ := Bool.and_eq_true_iff.mp hgiven
    obtain ⟨changed, hchanged, hrest⟩ := bind_eq_ok_iff.mp h
    have hinner := at?_append_member name hat
    have hplainInner : ∀ content, at? (place ++ [.member name]) tree = some content →
        everyText isPlainText content = true := by
      intro content hcontent
      rw [hinner] at hcontent
      exact everyText_of_lookup hbase hcontent
    rw [expandAt_of_plain hplainInner] at hchanged
    have hput := mergeAt_eq value hplainInner hplainValue hgivenValue hchanged
    rw [hinner, putAt_append_member _ name hat] at hput
    -- The object at the place has the merged member now, and the other members go on from there.
    have hnow :=
      at?_putAt (.object (Json.setMember name (overlay (base.lookup name) value) base)) hat
    rw [← hput] at hnow
    have hplainMember : everyText isPlainText (overlay (base.lookup name) value) = true :=
      everyText_overlay value (fun _ hlookup => everyText_of_lookup hbase hlookup) hplainValue
    rw [mergeMembersAt_eq members hnow (everyTextOf_setMember hbase hplainMember)
      hplainRest hgivenRest hrest, hput, putAt_putAt _ _ hat]
    rfl
termination_by structural members

end

theorem merge_eq_overlay {base layer merged : Json} (hbase : everyText isPlainText base = true)
    (hlayer : IsLiteral layer) (h : merge base layer = .ok merged) :
    merged = overlay (some base) layer := by
  have hroot : ∀ value, at? [] base = some value → everyText isPlainText value = true := by
    intro value hvalue
    obtain rfl : base = value := Option.some.inj hvalue
    exact hbase
  exact mergeAt_eq layer hroot hlayer.1 hlayer.2 h

end AisStation.Config.Tree

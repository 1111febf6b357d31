import AisStation.Config.Library
import AisStation.Proofs.Config.Layers

/-!
# Laws of libraries

A store merges nodes without looking into them. What a load makes of its files can be told by what
the files hold if the library merges objects member by member and lets the later node win in all
else. The operations on trees of JSON values do so where all texts stand for themselves. There, a
path through objects leads to what the objects hold.
-/

namespace AisStation.Config

/-! ## Merging -/

namespace Library

variable {Node Value Error : Type} {lib : Library Node Value Error} {content : Node → Json}
  {Plain : Node → Prop}

/-- Merging is recursive on objects, and the later node wins in all else: a law on what is in nodes of
a class that merging does not leave. -/
structure MergesMembers (lib : Library Node Value Error) (content : Node → Json)
    (Plain : Node → Prop) : Prop where
  plain : ∀ {base layer node : Node}, Plain base → Plain layer →
    lib.merge base layer = .ok node → Plain node
  overlay : ∀ {base layer node : Node}, Plain base → Plain layer →
    lib.merge base layer = .ok node →
    content node = Tree.overlay (some (content base)) (content layer)

/-- Layers that are merged one after the other are laid over each other in order. -/
theorem MergesMembers.foldlM (law : lib.MergesMembers content Plain) {base node : Node}
    {layers : List Node} (hbase : Plain base) (hlayers : ∀ layer ∈ layers, Plain layer)
    (h : layers.foldlM lib.merge base = .ok node) :
    content node =
      layers.foldl (fun tree layer => Tree.overlay (some tree) (content layer)) (content base) := by
  induction layers generalizing base with
  | nil =>
    obtain rfl := Except.ok.inj h
    rfl
  | cons layer layers ih =>
    obtain ⟨hlayer, hrest⟩ := List.forall_mem_cons.mp hlayers
    rw [List.foldlM_cons] at h
    obtain ⟨next, hnext, h⟩ := bind_eq_ok_iff.mp h
    rw [ih (law.plain hbase hlayer hnext) hrest h, law.overlay hbase hlayer hnext, List.foldl_cons]

end Library

namespace Tree

theorem isLiteral_overlay {base layer : Json} (hbase : IsLiteral base) (hlayer : IsLiteral layer) :
    IsLiteral (overlay (some base) layer) := by
  constructor
  · refine everyText_overlay layer (fun tree htree => ?_) hlayer.1
    exact Option.some.inj htree ▸ hbase.1
  · refine everyText_overlay layer (fun tree htree => ?_) hlayer.2
    exact Option.some.inj htree ▸ hbase.2

theorem library_merge {base layer tree : Json} (hbase : IsLiteral base) (hlayer : IsLiteral layer)
    (h : library.merge base layer = .ok tree) : tree = overlay (some base) layer :=
  merge_eq_overlay hbase.1 hlayer (mapError_eq_ok_iff.mp h)

theorem library_mergesMembers : library.MergesMembers id IsLiteral where
  plain := fun hbase hlayer h => library_merge hbase hlayer h ▸ isLiteral_overlay hbase hlayer
  overlay := library_merge

/-! ## Paths -/

variable {tree value : Json} {place : Place}

/-- What leads on by a member is an object that has the member. -/
theorem exists_of_at?_member {name : String} {keys : List String}
    (h : at? (place ++ (name :: keys).map .member) tree = some value) :
    ∃ members content, at? place tree = some (.object members) ∧
      members.lookup name = some content ∧ at? (keys.map .member) content = some value := by
  rw [at?_append, List.map_cons] at h
  obtain ⟨container, hcontainer, hinside⟩ := Option.bind_eq_some_iff.mp h
  obtain ⟨content, hchild, hvalue⟩ := Option.bind_eq_some_iff.mp hinside
  cases container with
  | object members => exact ⟨members, content, hcontainer, hchild, hvalue⟩
  | _ => contradiction

theorem settle_of_plain {fuel : Nat} {trail : List Place} (h : at? place tree = some value)
    (hplain : Template.isTemplate value = false) :
    settle tree (fuel + 1) trail (.inTree place) = .ok (.inTree place) := by
  rw [settle, h]
  cases value with
  | text s =>
    have hopening : Template.holdsOpening s.toList = false := hplain
    simp [hopening]
  | _ => rfl

/-- The way to a value that says all by itself leads through objects only, so no reference is
followed. -/
theorem follow_of_at? {fuel : Nat} {trail : List Place} {keys : List String}
    (hfuel : keys.length < fuel) (hvalue : at? (place ++ keys.map .member) tree = some value)
    (hplain : Template.isTemplate value = false) (hgiven : isMissing value = false) :
    follow tree fuel trail (.inTree place) keys =
      .ok (.found (.inTree (place ++ keys.map .member))) := by
  induction keys generalizing fuel place with
  | nil =>
    rw [List.map_nil, List.append_nil]
    cases fuel <;> rfl
  | cons name keys ih =>
    -- One unit of fuel is for the step and one for what it leads to.
    obtain ⟨fuel, rfl⟩ : ∃ n, fuel = n + 2 := ⟨fuel - 2, by rw [List.length_cons] at hfuel; omega⟩
    rw [List.length_cons] at hfuel
    obtain ⟨members, content, hobject, hlookup, hinside⟩ := exists_of_at?_member hvalue
    have hcontent : at? (place ++ [.member name]) tree = some content := by
      rw [at?_append_member name hobject, hlookup]
    have hway : place ++ (name :: keys).map .member =
        place ++ [.member name] ++ keys.map .member := by simp
    -- Before the end of the way there are objects only, which are neither templates nor missing.
    have hcontentPlain : Template.isTemplate content = false ∧ isMissing content = false := by
      cases keys with
      | nil =>
        obtain rfl := Option.some.inj hinside
        exact ⟨hplain, hgiven⟩
      | cons next keys =>
        have hroot : at? ([] ++ (next :: keys).map .member) content = some value := hinside
        obtain ⟨inner, _, hinner, -⟩ := exists_of_at?_member hroot
        obtain rfl := Option.some.inj hinner
        exact ⟨rfl, rfl⟩
    have hstep : stepFor name (Found.value tree (.inTree place)) = .ok (.member name) := by
      rw [Found.value, hobject, Option.getD_some, stepFor, hlookup]
      rfl
    have hmissing : isMissing (Found.value tree (.inTree (place ++ [.member name]))) = false := by
      rw [Found.value, hcontent]
      exact hcontentPlain.2
    rw [follow, hstep]
    dsimp only [Found.child]
    rw [hmissing, if_neg Bool.false_ne_true, settle_of_plain hcontent hcontentPlain.1]
    rw [hway] at hvalue ⊢
    exact ih (by omega) hvalue

theorem library_select {path : String} {keys : List String} (hkeys : KeyPath.keys path = keys)
    (hlength : keys.length < depthBound tree) (hvalue : at? (keys.map .member) tree = some value)
    (hplain : Template.isTemplate value = false) (hgiven : isMissing value = false) :
    library.select tree path = .ok (some value) := by
  have hselect : select tree keys = .ok (.found (.inTree (keys.map .member))) :=
    @follow_of_at? tree value [] _ _ _ hlength hvalue hplain hgiven
  show valueAt? tree path = _
  rw [valueAt?, hkeys, hselect]
  change Except.ok (some ((at? (keys.map .member) tree).getD .null)) = _
  rw [hvalue, Option.getD_some]

end Tree

end AisStation.Config

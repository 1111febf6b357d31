import AisStation.Json.Render
import AisStation.Proofs.Config.Library
import AisStation.Proofs.Config.Listing

/-!
# Loading a configuration

A configuration is loaded as a whole or not at all. What a load stores follows from the files alone:
the base file under the files of the directory `codec` in the order of their names and then under
those of the directory `relay`. Requests that were carried out before, those that failed among them,
do not count. Whether the result is checked is decided when all files are laid over each other, so a
file may turn the check on or off that the base file asks for.

All of this holds whatever the library makes of texts and nodes.
-/

namespace AisStation.Config

variable {Node Value Error : Type}

/-! ## Layers -/

/-- The files of a configuration: what the base file holds, and what the files that are laid over it
hold, in order. -/
structure Layering (lib : Library Node Value Error) (files : FileTree) (path : Path) where
  base : Node
  codec : List String
  relay : List String
  layers : List Node
  base_read : readFile lib files path = .ok base
  base_isObject : lib.isObject base = true
  codec_listed : IsListing files (path.dropLast ++ ["codec"]) codec
  relay_listed : IsListing files (path.dropLast ++ ["relay"]) relay
  layers_read : List.Forall₂ (fun file layer => readFile lib files file = .ok layer)
    (codec.map (fun name => path.dropLast ++ ["codec"] ++ [name]) ++
      relay.map (fun name => path.dropLast ++ ["relay"] ++ [name])) layers

/-- Is the configuration what the base file becomes under the files that are laid over it? -/
def IsMerged (lib : Library Node Value Error) (files : FileTree) (path : Path) (config : Node) :
    Prop :=
  ∃ l : Layering lib files path, l.layers.foldlM lib.merge l.base = .ok config

section Layers

variable {lib : Library Node Value Error} {files : FileTree} {path : Path} {config : Node}

theorem overridePaths_eq (files : FileTree) (path : Path) :
    overridePaths files path =
      ((files.names (path.dropLast ++ ["codec"])).filter isOverride).map
          (fun name => path.dropLast ++ ["codec"] ++ [name]) ++
        ((files.names (path.dropLast ++ ["relay"])).filter isOverride).map
          (fun name => path.dropLast ++ ["relay"] ++ [name]) := by
  simp only [overridePaths, overrideDirectories, List.flatMap_cons, List.flatMap_nil,
    List.append_nil]

/-- The files of a configuration are determined by the tree of files. -/
theorem Layering.eq (l l' : Layering lib files path) : l = l' := by
  obtain ⟨base, codec, relay, layers, hbase, hobject, hcodec, hrelay, hlayers⟩ := l
  obtain ⟨base', codec', relay', layers', hbase', hobject', hcodec', hrelay', hlayers'⟩ := l'
  obtain rfl : base = base' := Except.ok.inj (hbase.symm.trans hbase')
  obtain rfl := hcodec.eq hcodec'
  obtain rfl := hrelay.eq hrelay'
  have hunique : Relator.RightUnique fun file layer => readFile lib files file = .ok layer := by
    intro file layer layer' h h'
    exact Except.ok.inj (h.symm.trans h')
  obtain rfl := List.right_unique_forall₂' hunique hlayers hlayers'
  rfl

/-- Laying files over a node one after the other is reading all of them and merging. -/
theorem foldlM_mergeFile_eq_ok_iff {paths : List Path} {base : Node} :
    paths.foldlM (mergeFile lib files) base = .ok config ↔
      ∃ layers, List.Forall₂ (fun file layer => readFile lib files file = .ok layer) paths layers ∧
        layers.foldlM lib.merge base = .ok config := by
  induction paths generalizing base with
  | nil =>
    constructor
    · intro h
      obtain rfl := Except.ok.inj h
      exact ⟨[], List.Forall₂.nil, rfl⟩
    · rintro ⟨layers, hread, hmerged⟩
      obtain rfl := List.forall₂_nil_left_iff.mp hread
      obtain rfl := Except.ok.inj hmerged
      rfl
  | cons file paths ih =>
    rw [List.foldlM_cons, bind_eq_ok_iff]
    constructor
    · rintro ⟨next, hnext, hrest⟩
      obtain ⟨layer, hlayer, hmerge⟩ := bind_eq_ok_iff.mp hnext
      obtain ⟨layers, hlayers, hmerged⟩ := ih.mp hrest
      refine ⟨layer :: layers, List.Forall₂.cons hlayer hlayers, ?_⟩
      rw [List.foldlM_cons]
      exact bind_eq_ok_iff.mpr ⟨next, mapError_eq_ok_iff.mp hmerge, hmerged⟩
    · rintro ⟨layers, hread, hmerged⟩
      obtain ⟨layer, layers, hlayer, hlayers, rfl⟩ := List.forall₂_cons_left_iff.mp hread
      rw [List.foldlM_cons] at hmerged
      obtain ⟨next, hmerge, hmerged⟩ := bind_eq_ok_iff.mp hmerged
      refine ⟨next, ?_, ih.mpr ⟨layers, hlayers, hmerged⟩⟩
      exact bind_eq_ok_iff.mpr ⟨layer, hlayer, mapError_eq_ok_iff.mpr hmerge⟩

theorem merged_eq_ok_iff : merged lib files path = .ok config ↔ IsMerged lib files path config := by
  constructor
  · intro h
    obtain ⟨base, hbase, h⟩ := bind_eq_ok_iff.mp h
    split at h
    · rename_i hobject
      rw [overridePaths_eq] at h
      obtain ⟨layers, hlayers, hmerged⟩ := foldlM_mergeFile_eq_ok_iff.mp h
      exact ⟨⟨_, _, _, layers, hbase, hobject, isListing_names _ _, isListing_names _ _, hlayers⟩,
        hmerged⟩
    · contradiction
  · rintro ⟨l, hmerged⟩
    -- The names of a layering are those listed, so its paths are those that are folded over.
    have hcodec := l.codec_listed.eq (isListing_names files _)
    have hrelay := l.relay_listed.eq (isListing_names files _)
    have hlayers := l.layers_read
    rw [hcodec, hrelay, ← overridePaths_eq] at hlayers
    refine bind_eq_ok_iff.mpr ⟨l.base, l.base_read, ?_⟩
    rw [if_pos l.base_isObject]
    exact foldlM_mergeFile_eq_ok_iff.mpr ⟨l.layers, hlayers, hmerged⟩

end Layers

/-! ## Loads -/

/-- Is the check asked for, by the caller or by the configuration? -/
def IsAsked (lib : Library Node Value Error) (validate : Bool) (config : Node) : Prop :=
  validate = true ∨ ∃ value, lib.select config checkPath = .ok (some value) ∧
    lib.isTruthy value = true

/-- Does the configuration satisfy the schema when all references in it are resolved? -/
def HasPassed (lib : Library Node Value Error) (config : Node) : Prop :=
  ∃ tree c, lib.resolve config = .ok tree ∧ check tree = .valid c

/-- What a load makes of the files. -/
structure IsLoaded (lib : Library Node Value Error) (files : FileTree) (path : Path)
    (validate : Bool) (config : Node) : Prop where
  merged : IsMerged lib files path config
  answered : validate = false → ∃ value?, lib.select config checkPath = .ok value?
  passed : IsAsked lib validate config → HasPassed lib config

section Loads

variable {lib : Library Node Value Error} {files : FileTree} {path : Path} {validate : Bool}
  {config : Node}

/-- Is the check asked for? -/
def asked (lib : Library Node Value Error) (validate : Bool) (config : Node) :
    Except (StoreError Error) Bool :=
  if validate then .ok true else asksForCheck lib config

theorem asksForCheck_eq_ok_iff {asks : Bool} :
    asksForCheck lib config = .ok asks ↔
      ∃ value?, lib.select config checkPath = .ok value? ∧ asks = value?.any lib.isTruthy := by
  rw [asksForCheck, bind_eq_ok_iff]
  refine exists_congr fun value? => and_congr mapError_eq_ok_iff ?_
  cases value? with
  | none =>
    show Except.ok false = Except.ok asks ↔ asks = false
    rw [Except.ok.injEq, eq_comm]
  | some value =>
    show Except.ok (lib.isTruthy value) = Except.ok asks ↔ asks = lib.isTruthy value
    rw [Except.ok.injEq, eq_comm]

theorem asked_eq_ok_iff {asks : Bool} :
    asked lib validate config = .ok asks ↔
      (validate = false → ∃ value?, lib.select config checkPath = .ok value?) ∧
        (asks = true ↔ IsAsked lib validate config) := by
  cases validate with
  | true =>
    constructor
    · intro h
      obtain rfl := Except.ok.inj h
      exact ⟨fun hnot => absurd hnot Bool.noConfusion, iff_of_true rfl (Or.inl rfl)⟩
    · rintro ⟨-, hasks⟩
      rw [hasks.mpr (Or.inl rfl)]
      rfl
  | false =>
    rw [asked, if_neg Bool.false_ne_true, asksForCheck_eq_ok_iff]
    constructor
    · rintro ⟨value?, hselect, rfl⟩
      refine ⟨fun _ => ⟨value?, hselect⟩, ?_⟩
      cases value? <;> simp [IsAsked, hselect]
    · rintro ⟨hanswered, hasks⟩
      obtain ⟨value?, hselect⟩ := hanswered rfl
      refine ⟨value?, hselect, ?_⟩
      rw [Bool.eq_iff_iff, hasks]
      cases value? <;> simp [IsAsked, hselect]

/-- The last stage of a load: the configuration is checked if that is asked for. -/
def checked (lib : Library Node Value Error) (config : Node) (asks : Bool) :
    Except (StoreError Error) Node := do
  if asks then
    let resolved ← (lib.resolve config).mapError .library
    match check resolved with
    | .valid _ => return config
    | .invalid violations => throw (.violated violations)
  else return config

theorem checked_eq_ok_iff {asks : Bool} {kept : Node} :
    checked lib config asks = .ok kept ↔ kept = config ∧ (asks = true → HasPassed lib config) := by
  cases asks with
  | false =>
    constructor
    · intro h
      exact ⟨(Except.ok.inj h).symm, fun hasks => by contradiction⟩
    · rintro ⟨rfl, -⟩
      rfl
  | true =>
    constructor
    · intro h
      obtain ⟨tree, htree, h⟩ := bind_eq_ok_iff.mp h
      split at h
      · rename_i c hvalid
        exact ⟨(Except.ok.inj h).symm, fun _ => ⟨tree, c, mapError_eq_ok_iff.mp htree, hvalid⟩⟩
      · contradiction
    · rintro ⟨rfl, hpassed⟩
      obtain ⟨tree, c, htree, hvalid⟩ := hpassed rfl
      refine bind_eq_ok_iff.mpr ⟨tree, mapError_eq_ok_iff.mpr htree, ?_⟩
      rw [hvalid]
      rfl

theorem load_eq :
    load lib files path validate =
      merged lib files path >>= fun config => asked lib validate config >>= checked lib config := by
  cases validate <;> rfl

/-- A load succeeds if the files merge, the request for a check can be read off the result, and the
check passes if it is asked for. -/
theorem load_eq_ok_iff :
    load lib files path validate = .ok config ↔ IsLoaded lib files path validate config := by
  rw [load_eq, bind_eq_ok_iff]
  constructor
  · rintro ⟨kept, hmerged, h⟩
    obtain ⟨asks, hasked, h⟩ := bind_eq_ok_iff.mp h
    obtain ⟨rfl, hpassed⟩ := checked_eq_ok_iff.mp h
    obtain ⟨hanswered, hasks⟩ := asked_eq_ok_iff.mp hasked
    exact ⟨merged_eq_ok_iff.mp hmerged, hanswered, fun h => hpassed (hasks.mpr h)⟩
  · rintro ⟨hmerged, hanswered, hpassed⟩
    obtain ⟨asks, hasks⟩ : ∃ asks, (asks = true ↔ IsAsked lib validate config) := by
      by_cases h : IsAsked lib validate config
      · exact ⟨true, by simp [h]⟩
      · exact ⟨false, by simp [h]⟩
    refine ⟨config, merged_eq_ok_iff.mpr hmerged, bind_eq_ok_iff.mpr ⟨asks, ?_, ?_⟩⟩
    · exact asked_eq_ok_iff.mpr ⟨hanswered, hasks⟩
    · exact checked_eq_ok_iff.mpr ⟨rfl, fun h => hpassed (hasks.mp h)⟩

/-- A load that is asked for a check finds all violations of the schema. -/
theorem load_eq_violated {tree : Json} {violations : List Violation}
    (hmerged : IsMerged lib files path config) (hasked : IsAsked lib validate config)
    (hresolved : lib.resolve config = .ok tree) (hinvalid : check tree = .invalid violations) :
    load lib files path validate = .error (.violated violations) := by
  have hanswered : validate = false → ∃ value?, lib.select config checkPath = .ok value? := by
    rintro rfl
    obtain ⟨value, hselect, -⟩ := hasked.resolve_left Bool.false_ne_true
    exact ⟨some value, hselect⟩
  have hasks : asked lib validate config = .ok true :=
    asked_eq_ok_iff.mpr ⟨hanswered, by simp [hasked]⟩
  have hchecked : checked lib config true = .error (.violated violations) := by
    simp only [checked, if_true, hresolved, Except.mapError, bind, Except.bind, hinvalid]
    rfl
  rw [load_eq, merged_eq_ok_iff.mpr hmerged]
  change (asked lib validate config >>= checked lib config) = _
  rw [hasks]
  exact hchecked

theorem load_of_absent (h : files.entry? path = none) :
    load lib files path validate = .error (.notFound path) ∨
      load lib files path validate = .error .overlong := by
  have hload : load lib files path validate =
      .error (if files.isOverlong path then .overlong else .notFound path) := by
    rw [load_eq, merged, readFile, h]
    rfl
  rw [hload]
  cases files.isOverlong path with
  | true => exact Or.inr rfl
  | false => exact Or.inl rfl

/-- Every file that is laid over the base file can be read. -/
theorem IsMerged.exists_layer (h : IsMerged lib files path config) {directory name : String}
    (hdirectory : directory ∈ overrideDirectories) (hname : isOverride name = true)
    (hentry : (files.entry? (path.dropLast ++ [directory] ++ [name])).isSome = true) :
    ∃ layer, readFile lib files (path.dropLast ++ [directory] ++ [name]) = .ok layer := by
  obtain ⟨l, -⟩ := h
  have hread : ∀ file ∈ _, ∃ layer, readFile lib files file = .ok layer :=
    ((List.forall₂_and_left _ _).mp
      (l.layers_read.imp fun _ layer hlayer => ⟨⟨layer, hlayer⟩, hlayer⟩)).1
  apply hread
  rw [List.mem_append, List.mem_map, List.mem_map]
  rw [overrideDirectories, List.mem_pair] at hdirectory
  obtain rfl | rfl := hdirectory
  · exact Or.inl ⟨name, (l.codec_listed.mem_iff name).mpr ⟨hname, hentry⟩, rfl⟩
  · exact Or.inr ⟨name, (l.relay_listed.mem_iff name).mpr ⟨hname, hentry⟩, rfl⟩

theorem load_of_unreadable {directory name : String} {e : StoreError Error}
    (hdirectory : directory ∈ overrideDirectories) (hname : isOverride name = true)
    (hentry : (files.entry? (path.dropLast ++ [directory] ++ [name])).isSome = true)
    (hread : readFile lib files (path.dropLast ++ [directory] ++ [name]) = .error e) :
    ∃ e, load lib files path validate = .error e := by
  cases hload : load lib files path validate with
  | error e => exact ⟨e, rfl⟩
  | ok config =>
    have hmerged := (load_eq_ok_iff.mp hload).merged
    obtain ⟨layer, hlayer⟩ := hmerged.exists_layer hdirectory hname hentry
    rw [hread] at hlayer
    contradiction

/-- What is read at a path is what some file holds. -/
theorem exists_of_readFile {node : Node} (h : readFile lib files path = .ok node) :
    ∃ file ∈ files.files, lib.read file.2 = .ok node := by
  rw [readFile] at h
  split at h
  · contradiction
  · contradiction
  · rename_i text hentry
    obtain ⟨place, -, hplace⟩ := Option.bind_eq_some_iff.mp hentry
    split at hplace
    · rename_i text' hlookup
      obtain rfl : text' = text := FileTree.Entry.file.inj (Option.some.inj hplace)
      obtain ⟨before, after, hfiles, -⟩ := List.lookup_eq_some_iff.mp hlookup
      refine ⟨(place, text'), ?_, mapError_eq_ok_iff.mp h⟩
      rw [hfiles]
      exact List.mem_append_right _ List.mem_cons_self
    · split at hplace <;> cases hplace

/-- What holds of every file that can be read holds of those of a configuration. -/
theorem Layering.forall_of_read {P : Node → Prop} (l : Layering lib files path)
    (h : ∀ file ∈ files.files, ∀ node, lib.read file.2 = .ok node → P node) :
    P l.base ∧ ∀ layer ∈ l.layers, P layer := by
  have hread : ∀ file node, readFile lib files file = .ok node → P node := by
    intro file node hfile
    obtain ⟨entry, hentry, hnode⟩ := exists_of_readFile hfile
    exact h entry hentry node hnode
  refine ⟨hread path _ l.base_read, ?_⟩
  have hback : List.Forall₂ (fun layer file => readFile lib files file = .ok layer) l.layers _ :=
    l.layers_read.flip
  exact ((List.forall₂_and_left _ _).mp
    (hback.imp fun layer file hlayer => ⟨hread file layer hlayer, hlayer⟩)).1

/-- Where nodes are merged by their members, so are the files. -/
theorem IsMerged.eq_overlay {content : Node → Json} {Plain : Node → Prop}
    (law : lib.MergesMembers content Plain) (h : IsMerged lib files path config)
    (l : Layering lib files path) (hbase : Plain l.base)
    (hlayers : ∀ layer ∈ l.layers, Plain layer) :
    content config = l.layers.foldl
      (fun tree layer => Tree.overlay (some tree) (content layer)) (content l.base) := by
  obtain ⟨l', hmerged⟩ := h
  obtain rfl := l.eq l'
  exact law.foldlM hbase hlayers hmerged

end Loads

/-! ## Requests -/

/-- The configuration after a request that loads nothing: an override that can be made changes it. -/
def Request.applied (lib : Library Node Value Error) (config : Node) : Request Value → Node
  | .override path value => (lib.update config path value).toOption.getD config
  | _ => config

/-- Is the entry of a history a load that succeeds for the base file at a path? -/
def Loads (lib : Library Node Value Error) (path : Path) (entry : FileTree × Request Value) : Prop :=
  ∃ validate config, entry.2 = .load validate ∧ IsLoaded lib entry.1 path validate config

namespace Store

variable {lib : Library Node Value Error} {s : Store Node} {files : FileTree}
  {request : Request Value}

/-- The store after requests, each of which finds the files as they are by then. -/
def run (lib : Library Node Value Error) (s : Store Node)
    (history : List (FileTree × Request Value)) : Store Node :=
  history.foldl (fun s entry => (s.perform lib entry.1 entry.2).2) s

theorem run_cons (s : Store Node) (entry : FileTree × Request Value)
    (history : List (FileTree × Request Value)) :
    s.run lib (entry :: history) = (s.perform lib entry.1 entry.2).2.run lib history := rfl

theorem run_append (s : Store Node) (history later : List (FileTree × Request Value)) :
    s.run lib (history ++ later) = (s.run lib history).run lib later :=
  List.foldl_append

/-- A request succeeds and stores what it answers, or it fails and changes nothing. -/
theorem perform_cases (lib : Library Node Value Error) (s : Store Node) (files : FileTree)
    (request : Request Value) :
    (∃ config, s.answer lib files request = .ok config ∧
      s.perform lib files request = (.ok config, ⟨s.path, some config⟩)) ∨
    ∃ e, s.answer lib files request = .error e ∧
      s.perform lib files request = (.error e, s) := by
  cases hanswer : s.answer lib files request with
  | ok config => exact Or.inl ⟨config, rfl, by rw [perform, hanswer]⟩
  | error e => exact Or.inr ⟨e, rfl, by rw [perform, hanswer]⟩

theorem fst_perform (s : Store Node) (files : FileTree) (request : Request Value) :
    (s.perform lib files request).1 = s.answer lib files request := by
  obtain ⟨config, hanswer, hperform⟩ | ⟨e, hanswer, hperform⟩ := s.perform_cases lib files request
  all_goals rw [hperform, hanswer]

theorem perform_of_error {e : StoreError Error} (h : (s.perform lib files request).1 = .error e) :
    (s.perform lib files request).2 = s := by
  obtain ⟨config, -, hperform⟩ | ⟨e, -, hperform⟩ := s.perform_cases lib files request
  · rw [hperform] at h
    contradiction
  · rw [hperform]

theorem path_perform (s : Store Node) (files : FileTree) (request : Request Value) :
    (s.perform lib files request).2.path = s.path := by
  obtain ⟨config, -, hperform⟩ | ⟨e, -, hperform⟩ := s.perform_cases lib files request
  all_goals rw [hperform]

theorem path_run (s : Store Node) (history : List (FileTree × Request Value)) :
    (s.run lib history).path = s.path := by
  induction history generalizing s with
  | nil => rfl
  | cons entry history ih => rw [run_cons, ih, path_perform]

theorem perform_load {validate : Bool} {config : Node}
    (h : IsLoaded lib files s.path validate config) :
    (s.perform lib files (.load validate)).2 = ⟨s.path, some config⟩ := by
  have hload : s.answer lib files (.load validate) = .ok config := load_eq_ok_iff.mpr h
  rw [perform, hload]

theorem answer_of_not_loaded (h : s.config? = none) (hrequest : ∀ v, request ≠ .load v) :
    s.answer lib files request = .error .notLoaded := by
  cases request with
  | load validate => exact absurd rfl (hrequest validate)
  | override path value => rw [answer, h]
  | read => rw [answer, h]

/-- A request that loads nothing makes of the configuration what it makes of it on its own. -/
theorem config?_perform (h : ¬ Loads lib s.path (files, request)) :
    (s.perform lib files request).2.config? = s.config?.map (request.applied lib) := by
  cases request with
  | load validate =>
    cases hload : load lib files s.path validate with
    | ok config => exact absurd ⟨validate, config, rfl, load_eq_ok_iff.mp hload⟩ h
    | error e =>
      -- A load that fails changes nothing, and nothing comes of the request on its own either.
      have hfails : (s.perform lib files (.load validate)).1 = .error e := by
        rw [fst_perform]
        exact hload
      rw [perform_of_error hfails]
      exact Option.map_id'.symm
  | override path value =>
    cases hconfig : s.config? with
    | none =>
      rw [perform, answer, hconfig]
      exact hconfig
    | some config =>
      rw [perform, answer, hconfig, Option.map_some, Request.applied]
      dsimp only
      cases lib.update config path value with
      | ok changed => rfl
      | error e => exact hconfig
  | read =>
    cases hconfig : s.config? with
    | none =>
      rw [perform, answer, hconfig]
      exact hconfig
    | some config =>
      rw [perform, answer, hconfig]
      rfl

/-- After requests that load nothing, the configuration is that from before under the overrides. -/
theorem config?_run {history : List (FileTree × Request Value)}
    (h : ∀ entry ∈ history, ¬ Loads lib s.path entry) :
    (s.run lib history).config? =
      s.config?.map fun c => history.foldl (fun c entry => entry.2.applied lib c) c := by
  induction history generalizing s with
  | nil => exact Option.map_id'.symm
  | cons entry history ih =>
    obtain ⟨hentry, hrest⟩ := List.forall_mem_cons.mp h
    have hpath : (s.perform lib entry.1 entry.2).2.path = s.path := path_perform s entry.1 entry.2
    rw [← hpath] at hrest
    rw [run_cons, ih hrest, config?_perform hentry, Option.map_map]
    rfl

/-- A file that describes one setting of a station. -/
def settingText (part name : String) (value : Json) : String :=
  (Json.object [(stationName, .object [(part, .object [(name, value)])])]).render

/-- The files of a site: a base file that holds nothing, one that sets the channel, and one that
asks for the check. -/
def siteFiles : FileTree where
  files := [(["base.yaml"], ""),
    (["relay", "site.yaml"], settingText "system" "validate_config" (.bool true)),
    (["codec", "site.yaml"], settingText "codec" "channel" (.text "B"))]

/-- A site with a file that cannot be read. -/
def unreadableFiles : FileTree :=
  siteFiles.write ["codec", "site.yaml"] "["

/-- A site with a port that no relay can have. -/
def violatingFiles : FileTree :=
  siteFiles.write ["codec", "site.yaml"] (settingText "relay" "port" (.int 70000))

/-- The store that loaded the site. -/
def siteStore : Store Json :=
  ({ path := ["base.yaml"] } : Store Json).run Tree.library [(siteFiles, .load false)]

/-- The port is too great. -/
def portViolation : Violation :=
  ⟨["aislink", "relay", "port"], .lessThanEqual⟩

/-- Does the check find that the port is too great, and nothing else? -/
def findsPort (tree : Json) : Bool :=
  match check tree with
  | .valid _ => false
  | .invalid violations => violations == [portViolation]

theorem check_of_findsPort {tree : Json} (h : findsPort tree = true) :
    check tree = .invalid [portViolation] := by
  rw [findsPort] at h
  split at h
  · contradiction
  · rename_i violations hinvalid
    rw [hinvalid, eq_of_beq h]

/-- Is the value there, and is it a flag that is on? -/
def isOn : Option Json → Bool
  | some (.bool b) => b
  | _ => false

theorem eq_of_isOn {value? : Option Json} (h : isOn value? = true) :
    value? = some (.bool true) := by
  cases value? with
  | none => contradiction
  | some value =>
    cases value with
    | bool b => exact congrArg (some ∘ Json.bool) h
    | _ => contradiction

theorem exists_of_any {ε α : Type} {x : Except ε α} {p : α → Bool}
    (h : x.toOption.any p = true) : ∃ a, x = .ok a ∧ p a = true := by
  cases x with
  | error e => contradiction
  | ok a => exact ⟨a, rfl, h⟩

theorem exists_of_isNone {ε α : Type} {x : Except ε α} (h : x.toOption.isNone = true) :
    ∃ e, x = .error e := by
  cases x with
  | error e => exact ⟨e, rfl⟩
  | ok a => contradiction

/-- The place of the setting that asks for a check. -/
def checkPlace : Place :=
  [stationName, "system", "validate_config"].map .member

/-- The configuration asks for its check by a flag. -/
theorem select_of_isOn {config : Json} (h : isOn (Tree.at? checkPlace config) = true) :
    Tree.library.select config checkPath = .ok (some (.bool true)) := by
  refine Tree.library_select (by decide +kernel) ?_ (eq_of_isOn h) rfl rfl
  have hlength : [stationName, "system", "validate_config"].length = 3 := rfl
  rw [hlength, Tree.depthBound]
  omega

/-- No file of the site refers to a value. -/
theorem siteFiles_isLiteral : ∀ file ∈ siteFiles.files, ∀ tree,
    Tree.library.read file.2 = .ok tree → Tree.IsLiteral tree := by
  have hall : (siteFiles.files.all fun file =>
      (Tree.read file.2).toOption.all fun tree => decide (Tree.IsLiteral tree)) = true := by
    decide +kernel
  intro file hfile tree htree
  have hliteral := List.all_eq_true.mp hall file hfile
  rw [show Tree.read file.2 = .ok tree from htree] at hliteral
  exact of_decide_eq_true hliteral

end Store

end AisStation.Config

import ApiModel.Proofs.Generation.Signatures
import ApiModel.Proofs.Text.Octets

/-!
# What a file imports

A file imports what some node of the types in it asks for, and nothing else: the target of the node
unless that is a primitive, what its default needs, and the model to which it refers unless the
model is that of the file or shares the namespace of the file. What it imports comes in the order of
the octets and without repetition, so there is one such list, and it hangs on nothing but which types
stand in the file.

## Main definitions

* `Ascending`: texts in the order of their octets, without repetition.
* `ImportScope.Imports`, `ImportScope.Needs`: the models that are imported into a file, and what a
  node of a type asks for.
* `ImportScope.IsImportOf`, `Model.IsImport`, `ApiGroup.IsImport`: what the types of a file ask for,
  and what the files of models and groups import.

## Main results

* `mem_sortTexts`, `ascending_sortTexts`: sorting keeps the texts, in order.
* `ImportScope.mem_ofType`: a type asks for what its nodes ask for.
* `imports_of_generate`: the imports of a list of types, and those of the output.
-/

namespace ApiModel

/-! ### Texts in order -/

/-- Texts in the order of their octets, none of which comes twice. -/
def Ascending (texts : List String) : Prop := texts.Pairwise fun a b => octets a < octets b

theorem ascending_iff {texts : List String} : Ascending texts ↔ texts.Pairwise (· < ·) := by
  simp only [Ascending, octets_lt_iff]

/-- Texts in order are known by what is among them. -/
theorem Ascending.eq_of_mem_iff {texts texts' : List String} (h : Ascending texts)
    (h' : Ascending texts') (hmem : ∀ text, text ∈ texts ↔ text ∈ texts') : texts = texts' := by
  rw [ascending_iff] at h h'
  have hperm : texts.Perm texts' :=
    (List.perm_ext_iff_of_nodup (h.imp ne_of_lt) (h'.imp ne_of_lt)).mpr hmem
  exact hperm.eq_of_pairwise (fun _ _ _ _ hab hba => absurd hab (lt_asymm hba)) h h'

theorem mem_insertSorted {text t : String} {texts : List String} :
    t ∈ insertSorted text texts ↔ t = text ∨ t ∈ texts := by
  induction texts with
  | nil => exact List.mem_singleton.trans (by simp)
  | cons first rest ih =>
    rw [insertSorted]
    split
    · exact List.mem_cons
    split
    next heq =>
      subst heq
      simp
    next => simp only [List.mem_cons, ih, or_left_comm]

theorem ascending_insertSorted (text : String) {texts : List String} (h : Ascending texts) :
    Ascending (insertSorted text texts) := by
  rw [ascending_iff] at h ⊢
  induction texts with
  | nil => exact List.pairwise_singleton _ _
  | cons first rest ih =>
    obtain ⟨hfirst, hrest⟩ := List.pairwise_cons.mp h
    rw [insertSorted]
    split
    next hlt =>
      refine List.pairwise_cons.mpr ⟨fun t ht => ?_, h⟩
      rcases List.mem_cons.mp ht with rfl | ht
      · exact hlt
      · exact lt_trans hlt (hfirst t ht)
    next hge =>
    split
    next => exact h
    next hne =>
      refine List.pairwise_cons.mpr ⟨fun t ht => ?_, ih hrest⟩
      rcases mem_insertSorted.mp ht with rfl | ht
      · exact lt_of_le_of_ne (not_lt.mp hge) (Ne.symm hne)
      · exact hfirst t ht

theorem sortTexts_append_singleton (texts : List String) (text : String) :
    sortTexts (texts ++ [text]) = insertSorted text (sortTexts texts) := by
  rw [sortTexts, List.foldl_append]
  rfl

/-- Sorting keeps the texts. -/
theorem mem_sortTexts {text : String} {texts : List String} :
    text ∈ sortTexts texts ↔ text ∈ texts := by
  induction texts using List.reverseRecOn with
  | nil => rfl
  | append_singleton texts last ih =>
    rw [sortTexts_append_singleton, mem_insertSorted, ih, List.mem_append, List.mem_singleton,
      or_comm]

/-- Sorting puts the texts in order. -/
theorem ascending_sortTexts (texts : List String) : Ascending (sortTexts texts) := by
  induction texts using List.reverseRecOn with
  | nil => exact .nil
  | append_singleton texts last ih =>
    rw [sortTexts_append_singleton]
    exact ascending_insertSorted last ih

/-! ### What a type asks for -/

namespace ImportScope

/-- A model is imported into a file as a text: it is not the model of the file, and where models
share a namespace the file is not that of a model. -/
structure Imports (scope : ImportScope) (p : Profile) (name text : String) : Prop where
  text : p.importOfModel name = some text
  other : scope ≠ .model name
  separate : p.modelsShareNamespace = true → scope = .api

/-- A node of a type asks for a text: as the import of its target, which is no primitive; among the
imports of its default; or as the model to which it refers. -/
inductive Needs (scope : ImportScope) (p : Profile) (t : ResolvedType) (text : String) : Prop where
  | target (hprimitive : t.target.primitive = false) (htext : t.target.importName = some text)
  | default {d : DefaultValue} (hdefault : t.defaultValue = some d) (htext : text ∈ d.imports)
  | model {name : String} (hkind : t.kind = .model name) (htext : scope.Imports p name text)

/-- Some node of the types of a file asks for a text. -/
def IsImportOf (scope : ImportScope) (p : Profile) (types : List ResolvedType) (text : String) :
    Prop :=
  ∃ t ∈ types, ∃ u ∈ t.nodes, scope.Needs p u text

variable {scope : ImportScope} {p : Profile} {text : String}

theorem ofModel_eq_some_iff {name : String} :
    scope.ofModel p name = some text ↔ scope.Imports p name text := by
  cases scope with
  | api =>
    exact ⟨fun h => ⟨h, nofun, fun _ => rfl⟩, Imports.text⟩
  | model own =>
    rw [ofModel]
    split
    next h =>
      refine ⟨nofun, fun himports => ?_⟩
      rcases h with rfl | hshare
      · exact absurd rfl himports.other
      · cases himports.separate hshare
    next h =>
      rw [not_or] at h
      refine ⟨fun htext => ⟨htext, fun heq => ?_, fun hshare => absurd hshare h.2⟩, Imports.text⟩
      cases heq
      exact h.1 rfl

theorem mem_ofNode {t : ResolvedType} : text ∈ scope.ofNode p t ↔ scope.Needs p t text := by
  rw [ofNode, List.mem_append, List.mem_append]
  constructor
  · rintro ((h | h) | h)
    · split at h
      · cases h
      next hprimitive =>
        exact .target (Bool.eq_false_iff.mpr hprimitive) (Option.mem_toList.mp h)
    · split at h
      next d hdefault => exact .default hdefault h
      next => cases h
    · split at h
      next name hkind => exact .model hkind (ofModel_eq_some_iff.mp (Option.mem_toList.mp h))
      next => cases h
  · rintro (⟨hprimitive, htext⟩ | ⟨hdefault, htext⟩ | ⟨hkind, htext⟩)
    · refine .inl (.inl ?_)
      rw [hprimitive, if_neg Bool.false_ne_true, htext]
      exact List.mem_singleton.mpr rfl
    · refine .inl (.inr ?_)
      rw [hdefault]
      exact htext
    · refine .inr ?_
      rw [hkind]
      exact Option.mem_toList.mpr (ofModel_eq_some_iff.mpr htext)

theorem ofMembers_eq (ts : List ResolvedType) :
    scope.ofMembers p ts = ts.flatMap (scope.ofType p) := by
  induction ts with
  | nil => rfl
  | cons t rest ih => rw [ofMembers, ih, List.flatMap_cons]

theorem ofType_eq (t : ResolvedType) :
    scope.ofType p t = scope.ofNode p t ++ t.kind.parts.flatMap (scope.ofType p) := by
  obtain ⟨name, target, kind, nullability, default⟩ := t
  cases kind <;> simp [ofType, ofKind, ofMembers_eq, TypeKind.parts]

/-- A type asks for what its nodes ask for. -/
theorem mem_ofType {t : ResolvedType} :
    text ∈ scope.ofType p t ↔ ∃ u ∈ t.nodes, scope.Needs p u text := by
  induction t using ResolvedType.induction with
  | step t ih =>
    rw [ofType_eq, ResolvedType.nodes_eq, List.mem_append, mem_ofNode, List.exists_mem_cons_iff,
      List.mem_flatMap]
    refine or_congr_right ?_
    simp only [List.mem_flatMap]
    constructor
    · rintro ⟨u, hu, htext⟩
      obtain ⟨v, hv, hneeds⟩ := (ih u hu).mp htext
      exact ⟨v, ⟨u, hu, hv⟩, hneeds⟩
    · rintro ⟨v, ⟨u, hu, hv⟩, hneeds⟩
      exact ⟨u, hu, (ih u hu).mpr ⟨v, hv, hneeds⟩⟩

theorem mem_ofTypes {types : List ResolvedType} :
    text ∈ scope.ofTypes p types ↔ scope.IsImportOf p types text := by
  rw [ofTypes, mem_sortTexts, List.mem_flatMap]
  exact exists_congr fun t => and_congr_right fun _ => mem_ofType

theorem ascending_ofTypes (types : List ResolvedType) : Ascending (scope.ofTypes p types) :=
  ascending_sortTexts _

end ImportScope

/-! ### The output -/

/-- What the file of a model imports: what its types ask for, and its parent. -/
def Model.IsImport (p : Profile) (m : Model) (text : String) : Prop :=
  (ImportScope.model m.name.pascalCase).IsImportOf p m.referencedTypes text ∨
    ∃ parent ∈ m.parent, (ImportScope.model m.name.pascalCase).Imports p parent text

/-- What the file of a group imports: what the types of its operations ask for. -/
def ApiGroup.IsImport (p : Profile) (g : ApiGroup) (text : String) : Prop :=
  ImportScope.api.IsImportOf p (g.operations.flatMap ApiOperation.referencedTypes) text

namespace Profile

variable {p : Profile} {text : String} {m : Model}

theorem mem_modelImports : text ∈ p.modelImports m ↔ m.IsImport p text := by
  rw [modelImports, Model.IsImport, ← ImportScope.mem_ofTypes]
  simp only [← ImportScope.ofModel_eq_some_iff]
  split
  next parent hparent =>
    obtain ⟨name, hname, himport⟩ := Option.bind_eq_some_iff.mp hparent
    rw [mem_insertSorted, or_comm]
    refine or_congr_right ⟨?_, ?_⟩
    · rintro rfl
      exact ⟨name, hname, himport⟩
    · rintro ⟨name', hname', himport'⟩
      rw [hname] at hname'
      cases hname'
      exact Option.some.inj (himport'.symm.trans himport)
  next hnone =>
    refine (or_iff_left ?_).symm
    rintro ⟨name, hname, himport⟩
    exact Option.some_ne_none text (himport.symm.trans (Option.bind_eq_none_iff.mp hnone name hname))

theorem ascending_modelImports (m : Model) : Ascending (p.modelImports m) := by
  rw [modelImports]
  split
  · exact ascending_insertSorted _ (ImportScope.ascending_ofTypes _)
  · exact ImportScope.ascending_ofTypes _

end Profile

/-- The imports of a list of types are what some node of them asks for, in order and without
repetition; so they are the same for lists of the same types. In an output the imports of a model
are what the types of the model ask for and its parent, and those of a group are what the types of
its operations ask for, under the names that models have in the output. -/
theorem imports_of_generate :
    (∀ (scope : ImportScope) (p : Profile) (types : List ResolvedType),
      Ascending (scope.ofTypes p types) ∧
        ∀ text, text ∈ scope.ofTypes p types ↔ scope.IsImportOf p types text) ∧
    (∀ (scope : ImportScope) (p : Profile) (types types' : List ResolvedType),
      (∀ t, t ∈ types ↔ t ∈ types') → scope.ofTypes p types = scope.ofTypes p types') ∧
    ∀ (c : Contract) (p : Profile) (flags : Flags) (out : TargetModel),
      generate c p flags = .ok out →
      (∀ m ∈ out.models, Ascending m.imports ∧ ∀ text, text ∈ m.imports ↔ m.IsImport p text) ∧
      ∀ g ∈ out.groups, Ascending g.imports ∧ ∀ text, text ∈ g.imports ↔ g.IsImport p text := by
  refine ⟨fun scope p types => ⟨ImportScope.ascending_ofTypes types, fun text =>
    ImportScope.mem_ofTypes⟩, fun scope p types types' hsame => ?_, fun c p flags out h => ?_⟩
  · refine (ImportScope.ascending_ofTypes types).eq_of_mem_iff (ImportScope.ascending_ofTypes types')
      fun text => ?_
    rw [ImportScope.mem_ofTypes, ImportScope.mem_ofTypes]
    exact exists_congr fun t => and_congr_left fun _ => hsame t
  · obtain ⟨built, ops, -, -, rfl⟩ := generate_eq_ok_iff.mp h
    constructor
    · intro m hm
      obtain ⟨m, -, rfl⟩ := List.mem_map.mp hm
      exact ⟨Profile.ascending_modelImports m, fun text => Profile.mem_modelImports⟩
    · intro g hg
      obtain ⟨g, -, rfl⟩ := List.mem_map.mp hg
      exact ⟨ImportScope.ascending_ofTypes _, fun text => ImportScope.mem_ofTypes⟩

/-- Two groups promote different models of one name; each imports the one that its operations return
in the output, next to what it is wrapped in. -/
theorem imports_of_listing : ∃ out,
    generate (.listing [("/pets", "tag"), ("/stores", "town")]) .jaxrsSpec
      { interfaceOnly := true } = .ok out ∧
    out.groups.map ApiGroup.imports =
      [["java.util.List", "org.openapitools.model.ListResponse"],
       ["java.util.List", "org.openapitools.model.ListResponse2"]] ∧
    ∀ g ∈ out.groups, Ascending g.imports ∧
      ∀ text, text ∈ g.imports ↔ g.IsImport .jaxrsSpec text := by
  have hrun : ∃ out, generate (.listing [("/pets", "tag"), ("/stores", "town")]) .jaxrsSpec
      { interfaceOnly := true } = .ok out ∧ out.groups.map ApiGroup.imports =
        [["java.util.List", "org.openapitools.model.ListResponse"],
         ["java.util.List", "org.openapitools.model.ListResponse2"]] :=
    exists_of_generate (by decide +kernel)
  obtain ⟨out, h, himports⟩ := hrun
  obtain ⟨-, -, hout⟩ := imports_of_generate
  exact ⟨out, h, himports, (hout _ _ _ _ h).2⟩

end ApiModel

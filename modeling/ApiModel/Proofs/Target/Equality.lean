import ApiModel.Proofs.Target.Nodes
import Mathlib.Data.List.Forall2

/-!
# Equal types mention the same models

Types and models are compared part by part. Numbers among the constraints of a model need not equal
themselves, so equal models need not be the same; but they have the same name, and whatever one of
them mentions the other one mentions in its place.

## Main results

* `ResolvedType.mentions_eq_of_beq`, `Model.mentions_eq_of_beq`: equal types and models mention the
  same models.
-/

namespace ApiModel

theorem forall₂_of_beqMembers {ts us : List ResolvedType} (h : beqMembers ts us = true) :
    List.Forall₂ (fun t u => (t == u) = true) ts us := by
  induction ts generalizing us with
  | nil =>
    cases us with
    | nil => exact .nil
    | cons => cases h
  | cons t ts ih =>
    cases us with
    | nil => cases h
    | cons u us =>
      rw [beqMembers, Bool.and_eq_true] at h
      exact .cons h.1 (ih h.2)

theorem flatMap_eq_of_forall₂ {α β : Type} {R : α → α → Prop} {f : α → List β}
    {l l' : List α} (h : List.Forall₂ R l l') (hf : ∀ a ∈ l, ∀ b, R a b → f a = f b) :
    l.flatMap f = l'.flatMap f := by
  induction h with
  | nil => rfl
  | cons hab _ ih =>
    rw [List.flatMap_cons, List.flatMap_cons, hf _ List.mem_cons_self _ hab,
      ih fun a ha => hf a (List.mem_cons_of_mem _ ha)]

/-- Equal types are of kinds with equal parts, and these mention the same by themselves. -/
theorem TypeKind.of_beqKind {k l : TypeKind ResolvedType} (h : beqKind k l = true) :
    k.modelName ++ k.discriminatorTargets = l.modelName ++ l.discriminatorTargets ∧
      List.Forall₂ (fun t u => (t == u) = true) k.parts l.parts := by
  cases k <;> cases l <;> simp only [beqKind, Bool.false_eq_true] at h
  case model.model => exact ⟨by simp [modelName, discriminatorTargets, beq_iff_eq.mp h], .nil⟩
  case array.array | map.map | async.async => exact ⟨rfl, .cons h .nil⟩
  case union.union u v =>
    obtain ⟨ts, d⟩ := u
    obtain ⟨us, e⟩ := v
    change (beqMembers ts us && d == e) = true at h
    rw [Bool.and_eq_true, beq_iff_eq] at h
    obtain ⟨hmembers, rfl⟩ := h
    exact ⟨by cases d <;> rfl, forall₂_of_beqMembers hmembers⟩
  all_goals exact ⟨rfl, .nil⟩

/-- Equal types mention the same models. -/
theorem ResolvedType.mentions_eq_of_beq {t u : ResolvedType} (h : (t == u) = true) :
    t.mentions = u.mentions := by
  induction t using ResolvedType.induction generalizing u with
  | step t ih =>
    have hkind : beqKind t.kind u.kind = true := by
      obtain ⟨⟩ := t
      obtain ⟨⟩ := u
      change ResolvedType.beq _ _ = true at h
      simp only [beq, Bool.and_eq_true] at h
      exact h.1.1.2
    obtain ⟨hnames, hparts⟩ := TypeKind.of_beqKind hkind
    rw [mentions, collect_eq, mentions, collect_eq, hnames]
    congr 1
    exact flatMap_eq_of_forall₂ hparts fun a ha b hab => ih a ha hab

/-! ### Models -/

theorem forall₂_of_beq {α : Type} [BEq α] {l l' : List α} (h : (l == l') = true) :
    List.Forall₂ (fun a b => (a == b) = true) l l' := by
  induction l generalizing l' with
  | nil =>
    cases l' with
    | nil => exact .nil
    | cons => cases h
  | cons a l ih =>
    cases l' with
    | nil => cases h
    | cons b l' =>
      rw [List.cons_beq_cons, Bool.and_eq_true] at h
      exact .cons h.1 (ih h.2)

theorem Field.type_of_beq {f g : Field} (h : (f == g) = true) : (f.type == g.type) = true := by
  obtain ⟨⟩ := f
  obtain ⟨⟩ := g
  simp only [BEq.beq, instBEqField.beq, Bool.and_eq_true] at h
  exact h.2.2.2.1

namespace Model

variable {m m' : Model}

/-- What equal models have in common. -/
theorem parts_of_beq (h : (m == m') = true) :
    m.name = m'.name ∧ (m.shape == m'.shape) = true ∧ (m.fields == m'.fields) = true ∧
      m.parent = m'.parent ∧ m.discriminator = m'.discriminator := by
  obtain ⟨name, description, shape, fields, parent, discriminator, imports⟩ := m
  obtain ⟨name', description', shape', fields', parent', discriminator', imports'⟩ := m'
  change (name == name' && (description == description' && (shape == shape' && (fields == fields' &&
    (parent == parent' && (discriminator == discriminator' && imports == imports')))))) = true at h
  simp only [Bool.and_eq_true] at h
  obtain ⟨hname, -, hshape, hfields, hparent, hd, -⟩ := h
  exact ⟨eq_of_beq hname, hshape, hfields, eq_of_beq hparent, eq_of_beq hd⟩

theorem shape_of_beq (h : (m.shape == m'.shape) = true) :
    List.Forall₂ (fun t u => (t == u) = true) m.shapeTypes m'.shapeTypes ∧
      m.shape.discriminator? = m'.shape.discriminator? := by
  unfold shapeTypes
  cases hs : m.shape <;> cases hs' : m'.shape <;> rw [hs, hs'] at h
  case object.object | enum.enum => exact ⟨.nil, rfl⟩
  case synonym.synonym t u => exact ⟨.cons h .nil, rfl⟩
  case union.union u v =>
    obtain ⟨ts, d⟩ := u
    obtain ⟨us, e⟩ := v
    change (ts == us && d == e) = true at h
    rw [Bool.and_eq_true] at h
    exact ⟨forall₂_of_beq h.1, eq_of_beq h.2⟩
  all_goals cases h

/-- Equal models mention the same models. -/
theorem mentions_eq_of_beq (h : (m == m') = true) : m.mentions = m'.mentions := by
  obtain ⟨-, hshape, hfields, hparent, hd⟩ := parts_of_beq h
  obtain ⟨htypes, hd'⟩ := shape_of_beq hshape
  have hfieldTypes : (m.fields.map Field.type).flatMap ResolvedType.mentions =
      (m'.fields.map Field.type).flatMap ResolvedType.mentions := by
    rw [List.flatMap_map, List.flatMap_map]
    exact flatMap_eq_of_forall₂ (forall₂_of_beq hfields) fun f _ g hfg =>
      ResolvedType.mentions_eq_of_beq (Field.type_of_beq hfg)
  have hshapeTypes : m.shapeTypes.flatMap ResolvedType.mentions =
      m'.shapeTypes.flatMap ResolvedType.mentions :=
    flatMap_eq_of_forall₂ htypes fun t _ u htu => ResolvedType.mentions_eq_of_beq htu
  rw [mentions, mentions, referencedTypes, referencedTypes, List.flatMap_append,
    List.flatMap_append, hfieldTypes, hshapeTypes, hd', hd, hparent]

end Model

end ApiModel

import SubjectRules.Proofs.Schema.Branch
import SubjectRules.Proofs.Subject

/-!
# Schemas up to the order of their entries

Two schemas are reorderings of each other when swapping neighbours, here and in the branches
below, leads from one to the other.  Beside every subject they have the same leaves, each with
the same value, in another order.
-/

namespace SubjectRules.Schema

variable {ρ σ : Type}

/-- Equality up to the order of entries, at every level of nested schemas. -/
inductive Reordered : Schema ρ → Schema ρ → Prop
  | nil : Reordered .nil .nil
  | cons (key : String) (node : Node ρ) {rest rest' : Schema ρ} (hrest : Reordered rest rest') :
      Reordered (Schema.cons key node rest) (Schema.cons key node rest')
  | branch (key : String) {sub sub' rest rest' : Schema ρ} (hsub : Reordered sub sub')
      (hrest : Reordered rest rest') : Reordered (.branch key sub rest) (.branch key sub' rest')
  | swap (key key' : String) (node node' : Node ρ) (rest : Schema ρ) :
      Reordered (Schema.cons key node (Schema.cons key' node' rest))
        (Schema.cons key' node' (Schema.cons key node rest))
  | trans {s s' s'' : Schema ρ} (hfirst : Reordered s s') (hsecond : Reordered s' s'') :
      Reordered s s''

/-! ## Permutations of the entries -/

def ofList : List (String × Node ρ) → Schema ρ
  | [] => .nil
  | (key, node) :: rest => cons key node (ofList rest)

theorem ofList_entries (s : Schema ρ) : ofList s.entries = s := by
  induction s using entryInduction with
  | nil => rfl
  | cons key node rest ih => rw [entries_cons, ofList, ih]

theorem reordered_ofList {entries entries' : List (String × Node ρ)}
    (hperm : entries.Perm entries') : (ofList entries).Reordered (ofList entries') := by
  induction hperm with
  | nil => exact .nil
  | cons entry _ ih => exact .cons entry.1 entry.2 ih
  | swap entry other rest => exact .swap other.1 entry.1 other.2 entry.2 (ofList rest)
  | trans _ _ ih ih' => exact ih.trans ih'

theorem Reordered.of_perm {s s' : Schema ρ} (hentries : s.entries.Perm s'.entries) :
    s.Reordered s' := by
  rw [← ofList_entries s, ← ofList_entries s']
  exact reordered_ofList hentries

/-! ## Replacing the rules -/

def Node.map (f : ρ → σ) : Node ρ → Node σ
  | .leaf rules => .leaf (rules.map f)
  | .branch sub => .branch (sub.map f)

theorem map_cons (f : ρ → σ) (key : String) (node : Node ρ) (rest : Schema ρ) :
    (cons key node rest).map f = cons key (node.map f) (rest.map f) := by
  cases node <;> rfl

theorem Reordered.map {s s' : Schema ρ} (h : s.Reordered s') (f : ρ → σ) :
    (s.map f).Reordered (s'.map f) := by
  induction h with
  | nil => exact .nil
  | cons key node _ ih =>
      rw [map_cons, map_cons]
      exact .cons key (node.map f) ih
  | branch key _ _ ihSub ihRest => exact .branch key ihSub ihRest
  | swap key key' node node' rest =>
      simp only [map_cons]
      exact .swap key key' (node.map f) (node'.map f) (rest.map f)
  | trans _ _ ih ih' => exact ih.trans ih'

/-! ## The leaves beside a subject -/

theorem Reordered.visitsBeside {s s' : Schema ρ} (h : s.Reordered s') (subject : Json.Fields) :
    (s.visitsBeside subject).Perm (s'.visitsBeside subject) := by
  induction h generalizing subject with
  | nil => exact .refl _
  | cons key node _ ih =>
      rw [visitsBeside_cons, visitsBeside_cons]
      exact (ih subject).append_left _
  | @branch key sub sub' rest rest' _ _ ihSub ihRest =>
      have hnode : (Node.visitsBeside (subject.get? key) (.branch sub)).Perm
          (Node.visitsBeside (subject.get? key) (.branch sub')) := by
        rw [Node.visitsBeside, Node.visitsBeside]
        split
        · exact .refl _
        · exact ihSub _
      have hcons := visitsBeside_cons key (.branch sub) rest subject
      have hcons' := visitsBeside_cons key (.branch sub') rest' subject
      rw [Schema.cons] at hcons hcons'
      rw [hcons, hcons']
      exact (hnode.map _).append (ihRest subject)
  | swap key key' node node' rest =>
      simp only [visitsBeside_cons, ← List.append_assoc]
      exact List.perm_append_comm.append_right _
  | trans _ _ ih ih' => exact (ih subject).trans (ih' subject)

end SubjectRules.Schema

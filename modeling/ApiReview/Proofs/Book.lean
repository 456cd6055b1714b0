import ApiReview.Proofs.Gathering
import ApiReview.Proofs.Reading

/-! Reading by a book. Where the references of a schema are listed beforehand, with what they lead
to, none has to be resolved or looked for, and identifiers can go by short names. -/
namespace ApiReview.Schema

/-- A reference at a base, a short name for the identifier that it means, and what it leads to. -/
structure Page where
  base : Uri
  text : String
  short : String
  home : Uri
  schema : Json

/-- What a page says of its reference is so. -/
structure Page.Right (resources : Resources) (long : String → Uri) (p : Page) : Prop where
  means : resolve p.base p.text = .ok (long p.short)
  leads : resources.target (long p.short) = .ok ⟨p.home,p.schema⟩

/-- Notes what a place of the table holds. -/
def Table.fill (t : Table) (i : Nat) (s : Schema) : Table :=
  { t with schemas := t.schemas.setIfInBounds i s }

/-- Whether two texts are the same. Most differ in size, which is quicker to see. -/
def sameText (a b : String) : Bool := a.utf8ByteSize == b.utf8ByteSize && a == b

theorem sameText_eq (a b : String) : sameText a b = (a == b) := by
  by_cases same : a = b <;> simp [sameText,same]

/-- A short name in the place of an identifier. -/
def shortUri (short : String) : Uri := { path := short }

/-- Follows references by a book. One that is not in the book cannot be followed. -/
def followBook (formats : Bool) (book : List Page) : Nat → Uri → String → Reading Nat
  | 0, _, text => fun _ => .error (.badEncoding text)
  | n + 1, base, text => fun t =>
    match book.find? fun p => sameText p.text text && p.base = base with
    | none => .error (.badEncoding text)
    | some p => match t.keys.toList.findIdx? (sameText ·.path p.short) with
      | some i => .ok (i,t)
      | none => (ofJson ⟨followBook formats book n,formats⟩ p.home p.schema
          (t.open (shortUri p.short))).map fun (s,u) => (t.keys.size,u.fill t.keys.size s)

/-- From related tables the first computation comes to whatever the second one comes to. -/
def Refines (R : Table → Table → Prop) (α : Type) (m m' : Reading α) : Prop :=
  ∀ t t' a u', R t t' → m' t' = .ok (a,u') → ∃ u, m t = .ok (a,u) ∧ R u u'

theorem refines_congruent (R : Table → Table → Prop) : Congruent (Refines R) where
  ok := by
    rintro α a t t' _ _ related ⟨⟩
    exact ⟨t,rfl,related⟩
  refuse := by
    rintro α e _ _ _ _ _ ⟨⟩
  bind := by
    intro α β m m' f f' first rest t t' b u' related done
    obtain ⟨⟨a,v'⟩,one,two⟩ := Reading.bind_iff.mp done
    obtain ⟨v,same,related⟩ := first t t' a v' related one
    obtain ⟨u,done,related⟩ := rest a v v' b u' related two
    exact ⟨u,Reading.bind_iff.mpr ⟨_,same,done⟩,related⟩

/-- Tables that are the same but for the names of the identifiers. -/
def Renames (long : String → Uri) (t t' : Table) : Prop :=
  t.keys = t'.keys.map (long ·.path) ∧ t.schemas = t'.schemas

section
variable {resources : Resources} {formats : Bool} {base uri : Uri} {text : String} {t : Table}

theorem followWithin_known (n : Nat) (resolved : resolve base text = .ok uri) {i : Nat}
    (known : t.keys.idxOf? uri = some i) :
    followWithin resources formats (n + 1) base text t = .ok (i,t) := by
  simp only [followWithin,resolved,Bind.bind,StateT.bind,Except.bind,liftM,monadLift,
    MonadLift.monadLift,StateT.lift,get,getThe,MonadStateOf.get,StateT.get,pure,Except.pure,known]
  rfl

theorem followWithin_new (n : Nat) (resolved : resolve base text = .ok uri)
    (new : t.keys.idxOf? uri = none) {target : Target}
    (found : resources.target uri = .ok target) :
    followWithin resources formats (n + 1) base text t =
      (ofJson ⟨followWithin resources formats n,formats⟩ target.base target.schema
        (t.open uri)).map fun (s,u) => (t.keys.size,u.fill t.keys.size s) := by
  simp only [followWithin,resolved,Bind.bind,StateT.bind,Except.bind,liftM,monadLift,
    MonadLift.monadLift,StateT.lift,get,getThe,MonadStateOf.get,StateT.get,pure,Except.pure,new,
    found,modify,modifyGet,MonadStateOf.modifyGet,StateT.modifyGet]
  cases ofJson ⟨followWithin resources formats n,formats⟩ target.base target.schema
    (t.open uri) <;> rfl

end

theorem idxOf?_map {long : String → Uri} (apart : ∀ a b, long a = long b → a = b)
    (keys : Array Uri) (key : String) :
    (keys.map (long ·.path)).idxOf? (long key) = keys.toList.findIdx? (sameText ·.path key) := by
  have same (a : Uri) : (long a.path == long key) = sameText a.path key := by
    rw [sameText_eq,Bool.eq_iff_iff,beq_iff_eq,beq_iff_eq]
    exact ⟨apart a.path key,congrArg long⟩
  obtain ⟨list⟩ := keys
  rw [List.map_toArray,List.idxOf?_toArray,List.idxOf?,List.findIdx?_map]
  exact congrArg (List.findIdx? · list) (funext same)

section
variable {resources : Resources} {long : String → Uri} {book : List Page}

theorem followBook_refines (apart : ∀ a b, long a = long b → a = b)
    (right : ∀ p ∈ book, p.Right resources long) (formats : Bool) {n m : Nat} (fewer : n ≤ m)
    (base : Uri) (text : String) : Refines (Renames long) Nat
      (followWithin resources formats m base text) (followBook formats book n base text) := by
  induction n generalizing m base text with
  | zero => rintro _ _ _ _ _ ⟨⟩
  | succ n ih =>
    obtain ⟨m,rfl⟩ : ∃ k, m = k + 1 := ⟨m - 1,by omega⟩
    intro t t' i u' related done
    rw [followBook] at done
    split at done
    · cases done
    · next p listed =>
      have same := List.find?_some listed
      simp only [sameText_eq,Bool.and_eq_true,beq_iff_eq,decide_eq_true_eq] at same
      obtain ⟨rfl,rfl⟩ := same
      obtain ⟨resolved,found⟩ := right p (List.mem_of_find?_eq_some listed)
      have place : t.keys.idxOf? (long p.short) =
          t'.keys.toList.findIdx? (sameText ·.path p.short) := by
        rw [related.1,idxOf?_map apart]
      dsimp only at done
      split at done
      · next known =>
        cases done
        exact ⟨t,followWithin_known m resolved (place.trans known),related⟩
      · next new =>
        rw [followWithin_new m resolved (place.trans new) found]
        have opened : Renames long (t.open (long p.short)) (t'.open (shortUri p.short)) := by
          simp [Renames,Table.open,shortUri,related.1,related.2]
        have alike : Setting.Alike (Refines (Renames long)) ⟨followWithin resources formats m,formats⟩
            ⟨followBook formats book n,formats⟩ := ⟨rfl,ih (by omega)⟩
        have inside := ofJson_alike (refines_congruent _) alike p.home p.schema
        cases one : ofJson ⟨followBook formats book n,formats⟩ p.home p.schema
            (t'.open (shortUri p.short)) with
        | error e => simp [one,Except.map] at done
        | ok r =>
          obtain ⟨u,two,left⟩ := inside _ _ r.1 r.2 opened one
          simp only [one,Except.map,Except.ok.injEq,Prod.mk.injEq] at done
          obtain ⟨rfl,rfl⟩ := done
          refine ⟨u.fill t.keys.size r.1,?_,left.1,?_⟩
          · simp [two,Except.map,related.1]
          · simp [Table.fill,left.2,related.1]

end

/-- Reads a schema by a book. -/
def readBook (formats : Bool) (book : List Page) (n : Nat) (schema : Json) :
    Except Error Validator :=
  (ofJson ⟨followBook formats book n,formats⟩ defaultBase schema {}).map fun (root,table) =>
    ⟨root,table.schemas⟩

/-- What is read by a book that is right is what is read without it. -/
theorem read_of_book {resources : Resources} {long : String → Uri} {book : List Page}
    (apart : ∀ a b, long a = long b → a = b) (right : ∀ p ∈ book, p.Right resources long)
    {formats : Bool} {n : Nat} {schema : Json} {v : Validator}
    (room : n ≤ memoryLimit)
    (done : readBook formats book n schema = .ok v) : read formats resources schema = .ok v := by
  obtain ⟨⟨root,table⟩,one,rfl⟩ := Success.map_iff.mp done
  have alike : Setting.Alike (Refines (Renames long))
      ⟨followWithin resources formats memoryLimit,formats⟩
      ⟨followBook formats book n,formats⟩ := ⟨rfl,followBook_refines apart right formats room⟩
  obtain ⟨u,two,related⟩ := ofJson_alike (refines_congruent _) alike defaultBase schema {} {} root table
    ⟨by simp,rfl⟩ one
  simp only [read,StateT.run,two,Bind.bind,Except.bind,related.2]
  rfl

end ApiReview.Schema

import ApiReview.Proofs.Book

/-! The table of a reading. It only grows, and a place that is filled once stays as it is, so what
has been read in the end is what would be read with the finished list of identifiers at hand. -/
namespace ApiReview.Schema

/-- Follows references by a finished list of identifiers. -/
def lookUp (keys : List Uri) (base : Uri) (text : String) : Reading Nat := do
  let uri ← (resolve base text : Except Error Uri)
  match keys.idxOf? uri with
  | some i => return i
  | none => Reading.refuse (.endless text)

def finished (keys : List Uri) : Setting := ⟨lookUp keys,false⟩

/-- A reading that comes to the same in any case and leaves the table alone. -/
def Gives {α : Type} (m : Reading α) (a : α) : Prop := ∀ t, m t = .ok (a,t)

theorem Gives.bind {α β : Type} {m : Reading α} {f : α → Reading β} {a : α} {b : β}
    (first : Gives m a) (rest : Gives (f a) b) : Gives (m >>= f) b :=
  fun t => Reading.bind_iff.mpr ⟨_,first t,rest t⟩

namespace Table

/-- Every identifier has its place. -/
def Full (t : Table) : Prop := t.schemas.size = t.keys.size

/-- One table goes on where another one ends. -/
structure Grows (t u : Table) : Prop where
  keys : t.keys.toList <+: u.keys.toList
  schemas : ∀ j, j < t.keys.size → u.schemas[j]? = t.schemas[j]?
  full : t.Full → u.Full

section
variable {t u v : Table}

theorem Grows.refl (t : Table) : t.Grows t := ⟨List.prefix_refl _,fun _ _ => rfl,id⟩

theorem Grows.size_le (grows : t.Grows u) : t.keys.size ≤ u.keys.size := grows.keys.length_le

theorem Grows.trans (one : t.Grows u) (two : u.Grows v) : t.Grows v :=
  ⟨one.keys.trans two.keys,fun j old => (two.schemas j (Nat.lt_of_lt_of_le old one.size_le)).trans
    (one.schemas j old),two.full ∘ one.full⟩

theorem Grows.key (grows : t.Grows u) {j : Nat} {uri : Uri} (known : t.keys[j]? = some uri) :
    u.keys[j]? = some uri := by
  obtain ⟨rest,same⟩ := grows.keys
  obtain ⟨old,_⟩ := Array.getElem?_eq_some_iff.mp known
  rw [← Array.getElem?_toList] at known ⊢
  rw [← same,List.getElem?_append_left old,known]

end

/-- A place holds what its identifier leads to, as it is read with the finished list. -/
def Right (r : Resources) (keys : List Uri) (t : Table) (j : Nat) : Prop :=
  ∃ uri target s, t.keys[j]? = some uri ∧ r.target uri = .ok target ∧ t.schemas[j]? = some s ∧
    Gives (ofJson (finished keys) target.base target.schema) s

theorem Right.grows {r : Resources} {keys : List Uri} {t u : Table} {j : Nat}
    (right : t.Right r keys j) (grows : t.Grows u) : u.Right r keys j := by
  obtain ⟨uri,target,s,known,led,held,gives⟩ := right
  have old := (Array.getElem?_eq_some_iff.mp known).1
  exact ⟨uri,target,s,grows.key known,led,(grows.schemas j old).trans held,gives⟩

end Table

/-- The first reading makes the table grow by places that are right, and comes to what the second
one comes to, if the finished list begins as the table that it leaves does. -/
def Settles (r : Resources) (keys : List Uri) (α : Type) (m m' : Reading α) : Prop :=
  ∀ t a u, t.Full → m t = .ok (a,u) → t.Grows u ∧ (u.keys.toList <+: keys →
    Gives m' a ∧ ∀ j, t.keys.size ≤ j → j < u.keys.size → u.Right r keys j)

section
variable {r : Resources} {keys : List Uri}

theorem settles_congruent (r : Resources) (keys : List Uri) : Congruent (Settles r keys) where
  ok := by
    rintro α a t _ _ _ ⟨⟩
    exact ⟨.refl t,fun _ => ⟨fun _ => rfl,fun j least most => absurd least (Nat.not_le.mpr most)⟩⟩
  refuse := by
    rintro α e _ _ _ _ ⟨⟩
  bind := by
    intro α β m m' f f' first rest t b v full done
    obtain ⟨⟨a,u⟩,one,two⟩ := Reading.bind_iff.mp done
    obtain ⟨grows,early⟩ := first t a u full one
    obtain ⟨further,late⟩ := rest a u b v (grows.full full) two
    refine ⟨grows.trans further,fun front => ?_⟩
    obtain ⟨gives,here⟩ := early (further.keys.trans front)
    obtain ⟨gives',there⟩ := late front
    refine ⟨gives.bind gives',fun j least most => ?_⟩
    rcases Nat.lt_or_ge j u.keys.size with old | new
    · exact (here j least old).grows further
    · exact there j new most

theorem idxOf?_front {front : List Uri} (starts : front <+: keys) {uri : Uri} {i : Nat}
    (known : front.idxOf? uri = some i) : keys.idxOf? uri = some i := by
  obtain ⟨rest,rfl⟩ := starts
  rw [List.idxOf?,List.findIdx?_append,← List.idxOf?,known]
  rfl

/-- What a list does not have is found where it is put. -/
theorem idxOf?_new {front : List Uri} {uri : Uri} (new : front.idxOf? uri = none) :
    (front ++ [uri]).idxOf? uri = some front.length := by
  rw [List.idxOf?] at new
  rw [List.idxOf?,List.findIdx?_append,new]
  simp

theorem idxOf?_toList (list : Array Uri) (uri : Uri) : list.toList.idxOf? uri = list.idxOf? uri := by
  obtain ⟨list⟩ := list
  simp

theorem lookUp_gives {base uri : Uri} {text : String} (resolved : resolve base text = .ok uri)
    {i : Nat} (known : keys.idxOf? uri = some i) : Gives (lookUp keys base text) i := by
  refine fun t => Reading.bind_iff.mpr ⟨(uri,t),Reading.lift_iff.mpr ⟨resolved,rfl⟩,?_⟩
  dsimp only
  rw [known]
  rfl

/-- What following a reference does: it finds the identifier in the table, or puts it there and
reads what it leads to. -/
theorem followWithin_cases {formats : Bool} {n : Nat} {base : Uri} {text : String} {t u : Table}
    {i : Nat} (done : followWithin r formats (n + 1) base text t = .ok (i,u)) :
    ∃ uri, resolve base text = .ok uri ∧
      (t.keys.idxOf? uri = some i ∧ u = t ∨
      t.keys.idxOf? uri = none ∧ ∃ target s v, r.target uri = .ok target ∧
        ofJson ⟨followWithin r formats n,formats⟩ target.base target.schema (t.open uri) =
          .ok (s,v) ∧ i = t.keys.size ∧ u = v.fill t.keys.size s) := by
  obtain ⟨⟨uri,t'⟩,one,rest⟩ := Reading.bind_iff.mp done
  obtain ⟨resolved,rfl⟩ := Reading.lift_iff.mp one
  dsimp only at resolved
  refine ⟨uri,resolved,?_⟩
  cases known : t.keys.idxOf? uri with
  | some k =>
    rw [followWithin_known n resolved known] at done
    cases done
    exact .inl ⟨rfl,rfl⟩
  | none =>
    refine .inr ⟨rfl,?_⟩
    cases led : r.target uri with
    | error e =>
      obtain ⟨⟨t',t''⟩,got,rest⟩ := Reading.bind_iff.mp rest
      cases got
      dsimp only at rest
      rw [known] at rest
      obtain ⟨p,two,_⟩ := Reading.bind_iff.mp rest
      rw [led] at two
      cases two
    | ok target =>
      rw [followWithin_new n resolved known led] at done
      obtain ⟨⟨s,v⟩,inside,same⟩ := Success.map_iff.mp done
      cases same
      exact ⟨target,s,v,rfl,inside,rfl,rfl⟩

theorem Table.open_grows (t : Table) (uri : Uri) (full : t.Full) : t.Grows (t.open uri) where
  keys := by simp [Table.open]
  schemas j old := by
    have inside : j < t.schemas.size := full ▸ old
    simp [Table.open,Array.getElem?_push,Nat.ne_of_lt inside]
  full _ := by simpa [Table.Full,Table.open] using full

/-- Filling the place of an identifier that was new does not touch the places before it. -/
theorem Table.Grows.fill {t v : Table} {uri : Uri} (full : t.Full) (grows : (t.open uri).Grows v)
    (s : Schema) : t.Grows (v.fill t.keys.size s) where
  keys := (t.open_grows uri full).keys.trans grows.keys
  schemas j old := by
    rw [Table.fill,Array.getElem?_setIfInBounds_ne (Nat.ne_of_gt old)]
    exact ((t.open_grows uri full).trans grows).schemas j old
  full _ := by
    simpa [Table.Full,Table.fill] using ((t.open_grows uri full).trans grows).full full

theorem followWithin_settles (n : Nat) (base : Uri) (text : String) :
    Settles r keys Nat (followWithin r false n base text) (lookUp keys base text) := by
  induction n generalizing base text with
  | zero => rintro t i u _ ⟨⟩
  | succ n ih =>
    intro t i u full done
    obtain ⟨uri,resolved,⟨known,rfl⟩ | ⟨new,target,s,v,led,inside,rfl,rfl⟩⟩ := followWithin_cases done
    · refine ⟨.refl u,fun front => ⟨lookUp_gives resolved (idxOf?_front front ?_),?_⟩⟩
      · rw [idxOf?_toList,known]
      · exact fun j least most => absurd least (Nat.not_le.mpr most)
    · have alike : Setting.Alike (Settles r keys) ⟨followWithin r false n,false⟩ (finished keys) :=
        ⟨rfl,ih⟩
      have opened := t.open_grows uri full
      obtain ⟨grows,settled⟩ := ofJson_alike (settles_congruent r keys) alike target.base
        target.schema (t.open uri) s v (opened.full full) inside
      refine ⟨grows.fill full s,fun front => ?_⟩
      obtain ⟨gives,later⟩ := settled front
      have key : v.keys[t.keys.size]? = some uri := grows.key (by simp [Table.open])
      have size : t.keys.size < v.schemas.size := by
        have most := (Array.getElem?_eq_some_iff.mp key).1
        exact ((opened.trans grows).full full).symm ▸ most
      refine ⟨lookUp_gives resolved (idxOf?_front (grows.keys.trans front) ?_),
        fun j least most => ?_⟩
      · rw [← idxOf?_toList] at new
        simpa [Table.open] using idxOf?_new new
      · rcases Nat.lt_or_eq_of_le least with later' | rfl
        · obtain ⟨uri',target',s',known,led',held,gives'⟩ :=
            later j (by simpa [Table.open] using Nat.succ_le_of_lt later') most
          refine ⟨uri',target',s',known,led',?_,gives'⟩
          rw [Table.fill,Array.getElem?_setIfInBounds_ne (Nat.ne_of_lt later')]
          exact held
        · refine ⟨uri,target,s,key,led,?_,gives⟩
          rw [Table.fill,Array.getElem?_setIfInBounds_self,if_pos size]

/-- A validator holds what its schema and a list of identifiers lead to, all read with that list. -/
structure Validator.Holds (r : Resources) (keys : List Uri) (schema : Json) (v : Validator) :
    Prop where
  root : Gives (ofJson (finished keys) defaultBase schema) v.root
  size : v.table.size = keys.length
  places : ∀ i uri, keys[i]? = some uri → ∃ target, r.target uri = .ok target ∧
    Gives (ofJson (finished keys) target.base target.schema) (Validator.target v.table i)

theorem Validator.Holds.leads {schema : Json} {v : Validator} (holds : v.Holds r keys schema)
    (i : Nat) (uri : Uri) (known : keys[i]? = some uri) : ∃ t, r.target uri = .ok t :=
  have ⟨t,led,_⟩ := holds.places i uri known
  ⟨t,led⟩

/-- What reading a schema comes to, with the table that is left. -/
def readTable (r : Resources) (schema : Json) : Except Error (Schema × Table) :=
  (ofJson ⟨followWithin r false memoryLimit,false⟩ defaultBase schema).run {}

theorem read_iff {schema : Json} {v : Validator} : read false r schema = .ok v ↔
    ∃ p, readTable r schema = .ok p ∧ v = ⟨p.1,p.2.schemas⟩ := by
  rw [read,Success.bind_iff]
  refine exists_congr fun p => and_congr_right fun _ => ⟨?_,?_⟩
  · rintro ⟨⟩
    rfl
  · rintro rfl
    rfl

theorem readTable_holds {schema : Json} {root : Schema} {t : Table}
    (inside : readTable r schema = .ok (root,t)) :
    Validator.Holds r t.keys.toList schema ⟨root,t.schemas⟩ := by
  have alike : Setting.Alike (Settles r t.keys.toList) ⟨followWithin r false memoryLimit,false⟩
      (finished t.keys.toList) := ⟨rfl,followWithin_settles memoryLimit⟩
  have empty : Table.Full {} := rfl
  obtain ⟨grows,settled⟩ := ofJson_alike (settles_congruent r _) alike defaultBase schema {} root t
    empty inside
  obtain ⟨gives,right⟩ := settled (List.prefix_refl _)
  refine ⟨gives,grows.full empty,fun i uri known => ?_⟩
  rw [Array.getElem?_toList] at known
  obtain ⟨uri',target,s,known',led,held,gives⟩ :=
    right i (Nat.zero_le i) (Array.getElem?_eq_some_iff.mp known).1
  cases known.symm.trans known'
  exact ⟨target,led,by simpa [Validator.target,held] using gives⟩

theorem read_holds {schema : Json} {v : Validator} (done : read false r schema = .ok v) :
    ∃ keys, v.Holds r keys schema := by
  obtain ⟨⟨root,t⟩,inside,rfl⟩ := read_iff.mp done
  exact ⟨_,readTable_holds inside⟩

end

end ApiReview.Schema

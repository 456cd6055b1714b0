import ApiReview.Proofs.Closure
import Mathlib.Data.List.Perm.Basic

/-! Validators of schemas whose members stand in another order. What they refer to comes up in another
order as well, so that their tables have the same places under other numbers; their verdicts are the
same, and so are their faults but for the order. -/
namespace ApiReview.Schema

/-- The same schema, or one that has the same keywords in another order. -/
inductive Shuffled : Schema → Schema → Prop where
  | same (s : Schema) : Shuffled s s
  | keywords {list list' : List Keyword} : list.Perm list' → Shuffled (.keywords list) (.keywords list')

theorem Shuffled.rename {s s' : Schema} (shuffled : Shuffled s s') (σ : Nat → Nat) :
    Shuffled (s.rename σ) (s'.rename σ) := by
  cases shuffled with
  | same => exact .same _
  | keywords perm =>
    rw [rename_keywords,rename_keywords]
    exact .keywords (perm.map _)

theorem keywordsFaults_eq (f : Following) (list : List Keyword) (here : Pointer) (v : Json) :
    keywordsFaults f list here v = list.flatMap fun k => keywordFaults f k here v := by
  induction list with
  | nil => rfl
  | cons k rest ih => rw [keywordsFaults,List.flatMap_cons,ih]

theorem Shuffled.same_perm {s s' : Schema} (shuffled : Shuffled s s') (f : Following) (v : Json) :
    Same List.Perm f f s s' v := by
  cases shuffled with
  | same => exact ⟨rfl,fun _ => .refl _⟩
  | @keywords list list' perm =>
    constructor
    · rw [accepts,accepts,Bool.eq_iff_iff,keywordsAccept_iff,keywordsAccept_iff]
      exact forall_congr' fun k => imp_congr_left perm.mem_iff.symm
    · intro here
      rw [faults,faults,keywordsFaults_eq,keywordsFaults_eq]
      exact perm.flatMap_right _

theorem Same.trans {f f' f'' : Following} {s s' s'' : Schema} {v : Json}
    (one : Same List.Perm f f' s s' v) (two : Same List.Perm f' f'' s' s'' v) :
    Same List.Perm f f'' s s'' v :=
  ⟨two.accepts.trans one.accepts,fun here => (one.faults here).trans (two.faults here)⟩

/-! Lists with the same identifiers. -/

/-- The place of an identifier in the second list, by its place in the first one. -/
def numbering (keys keys' : List Uri) (i : Nat) : Nat := (keys[i]?.bind keys'.idxOf?).getD i

section
variable {keys keys' : List Uri}

theorem getElem?_of_idxOf? {uri : Uri} {i : Nat} (known : keys.idxOf? uri = some i) :
    keys[i]? = some uri := by
  obtain ⟨inside,same,_⟩ := List.findIdx?_eq_some_iff_getElem.mp known
  rw [List.getElem?_eq_getElem inside,← eq_of_beq same]

theorem idxOf?_of_mem {uri : Uri} (listed : uri ∈ keys) : ∃ i, keys.idxOf? uri = some i := by
  cases known : keys.idxOf? uri with
  | some i => exact ⟨i,rfl⟩
  | none => exact absurd listed (by simpa using known)

theorem numbering_known (perm : keys.Perm keys') {uri : Uri} {i : Nat} (place : keys[i]? = some uri) :
    keys'.idxOf? uri = some (numbering keys keys' i) := by
  obtain ⟨j,known⟩ := idxOf?_of_mem (perm.mem_iff.mp (List.mem_of_getElem? place))
  rw [numbering,place,Option.bind_some,known,Option.getD_some]

theorem lookUp_numbering (perm : keys.Perm keys') (base : Uri) (text : String) :
    lookUp keys' base text = numbering keys keys' <$> lookUp keys base text := by
  unfold lookUp
  simp only [map_bind]
  refine bind_congr fun uri => ?_
  cases known : keys.idxOf? uri with
  | some i => simp [numbering_known perm (getElem?_of_idxOf? known)]
  | none =>
    have absent : keys'.idxOf? uri = none := by
      rw [List.idxOf?_eq_none_iff] at known ⊢
      exact mt perm.mem_iff.mpr known
    rw [absent]
    rfl

theorem finished_numbering (perm : keys.Perm keys') :
    finished keys' = (finished keys).rename (numbering keys keys') := by
  have follow : lookUp keys' = fun base text => numbering keys keys' <$> lookUp keys base text :=
    funext₂ (lookUp_numbering perm)
  rw [finished,follow]
  rfl

/-- What is read with the one list is read with the other one, under the numbers there. -/
theorem gives_numbering (perm : keys.Perm keys') {base : Uri} {v : Json} {s : Schema}
    (gives : Gives (ofJson (finished keys) base v) s) :
    Gives (ofJson (finished keys') base v) (s.rename (numbering keys keys')) := by
  rw [finished_numbering perm,ofJson_rename]
  exact gives.map _

end

/-- What is read of one schema is read of another one, but for the order of keywords. -/
def ReadAlike (schema schema' : Json) : Prop := ∀ keys base s,
  Gives (ofJson (finished keys) base schema) s →
    ∃ s', Gives (ofJson (finished keys) base schema') s' ∧ Shuffled s s'

/-- Identifiers lead to the same, but for one schema that another one stands for. -/
structure Reorders (r r' : Resources) (schema schema' : Json) : Prop where
  reads : ReadAlike schema schema'
  target : ∀ uri t, r.target uri = .ok t → ∃ t', r'.target uri = .ok t' ∧
    (t' = t ∨ t.schema = schema ∧ t' = ⟨t.base,schema'⟩)

namespace Reorders
variable {r r' : Resources} {schema schema' : Json} {keys keys' : List Uri}

theorem leads (reorders : Reorders r r' schema schema') {uri : Uri} {t : Target} {s : Schema}
    (led : r.target uri = .ok t) (gives : Gives (ofJson (finished keys) t.base t.schema) s) :
    ∃ t' s', r'.target uri = .ok t' ∧ Gives (ofJson (finished keys) t'.base t'.schema) s' ∧
      Shuffled s s' := by
  obtain ⟨t',led',rfl | ⟨same,rfl⟩⟩ := reorders.target uri t led
  · exact ⟨t',s,led',gives,.same s⟩
  · obtain ⟨s',gives',shuffled⟩ := reorders.reads keys t.base s (same ▸ gives)
    exact ⟨_,s',led',gives',shuffled⟩

theorem closed (reorders : Reorders r r' schema schema') (closed : Closed r keys) :
    Closed r' keys := by
  intro uri listed
  obtain ⟨t,s,led,gives⟩ := closed uri listed
  obtain ⟨t',s',led',gives',_⟩ := reorders.leads led gives
  exact ⟨t',s',led',gives'⟩

end Reorders

theorem Validator.Holds.closed {r : Resources} {keys : List Uri} {schema : Json} {v : Validator}
    (holds : v.Holds r keys schema) : Closed r keys := by
  intro uri listed
  obtain ⟨i,known⟩ := List.mem_iff_getElem?.mp listed
  obtain ⟨t,led,gives⟩ := holds.places i uri known
  exact ⟨t,_,led,gives⟩

section
variable {r r' : Resources} {schema schema' : Json} {root root' : Schema} {t t' : Table}

/-- What the one reading comes by is enough for the other one. -/
theorem Reorders.inside (reorders : Reorders r r' schema schema')
    (done : readTable r schema = .ok (root,t)) :
    (∀ root' t', readTable r' schema' = .ok (root',t') → t'.Inside t.keys.toList) ∧
    (t.keys.size < memoryLimit → ∃ p, readTable r' schema' = .ok p) := by
  have holds := readTable_holds done
  obtain ⟨_,gives,_⟩ := reorders.reads _ _ _ holds.root
  exact readTable_inside (reorders.closed holds.closed) gives

/-- Both readings come by the same identifiers. -/
theorem keys_perm (there : Reorders r r' schema schema') (back : Reorders r' r schema' schema)
    (done : readTable r schema = .ok (root,t)) (done' : readTable r' schema' = .ok (root',t')) :
    t.keys.toList.Perm t'.keys.toList := by
  have inside := (back.inside done').1 root t done
  have inside' := (there.inside done).1 root' t' done'
  exact (List.perm_ext_iff_of_nodup inside.nodup inside'.nodup).mpr fun uri =>
    ⟨inside.subset uri,inside'.subset uri⟩

end

namespace Validator

/-- Two validators, the second one with other numbers and with keywords in another order. -/
structure Reordered (σ : Nat → Nat) (v v' : Validator) : Prop where
  size : v'.table.size = v.table.size
  root : Shuffled (v.root.rename σ) v'.root
  places : ∀ i, Shuffled ((target v.table i).rename σ) (target v'.table (σ i))

theorem Reordered.of_holds {r r' : Resources} {schema schema' : Json} {v v' : Validator}
    {keys keys' : List Uri} (reorders : Reorders r r' schema schema') (perm : keys.Perm keys')
    (holds : v.Holds r keys schema) (holds' : v'.Holds r' keys' schema') :
    Reordered (numbering keys keys') v v' where
  size := by rw [holds.size,holds'.size,perm.length_eq]
  root := by
    obtain ⟨s,gives,shuffled⟩ := reorders.reads _ _ _ holds.root
    rw [holds'.root.unique (gives_numbering perm gives)]
    exact shuffled.rename _
  places i := by
    cases place : keys[i]? with
    | some uri =>
      obtain ⟨t,led,gives⟩ := holds.places i uri place
      obtain ⟨t',s,led',gives',shuffled⟩ := reorders.leads led gives
      obtain ⟨t'',led'',gives''⟩ := holds'.places _ uri
        (getElem?_of_idxOf? (numbering_known perm place))
      cases led'.symm.trans led''
      rw [gives''.unique (gives_numbering perm gives')]
      exact shuffled.rename _
    | none =>
      -- Outside the table there is nothing, under any number.
      have outside := List.getElem?_eq_none_iff.mp place
      have same : numbering keys keys' i = i := by rw [numbering,place]; rfl
      have nothing {w : Validator} (size : w.table.size ≤ i) : target w.table i = .everything := by
        rw [target,Array.getElem?_eq_none size,Option.getD_none]
      rw [same,nothing (by rw [holds.size]; exact outside),
        nothing (by rw [holds'.size,← perm.length_eq]; exact outside)]
      exact .same _

namespace Reordered
variable {σ : Nat → Nat} {v v' : Validator} (reordered : Reordered σ v v')
include reordered

theorem followed (n i : Nat) (value : Json) :
    Same List.Perm ⟨acceptsWithin v.table n,faultsWithin v.table n⟩
      ⟨acceptsWithin v'.table n,faultsWithin v'.table n⟩ (.reference i) (.reference (σ i)) value := by
  induction n generalizing i value with
  | zero => exact ⟨rfl,fun _ => .refl _⟩
  | succ n ih =>
    have inner := (rename_same .perm ih (target v.table i) value).trans
      ((reordered.places i).same_perm _ value)
    exact ⟨inner.accepts,inner.faults⟩

/-- The verdicts are the same, and the findings but for their order. -/
theorem accepts_findings_perm (document : Json) : v'.accepts document = v.accepts document ∧
    (v'.findings document).Perm (v.findings document) := by
  have rounds : v'.rounds document = v.rounds document := by
    rw [Validator.rounds,Validator.rounds,reordered.size]
  have same := (rename_same .perm (reordered.followed (v.rounds document)) v.root document).trans
    (reordered.root.same_perm _ document)
  rw [Validator.accepts,Validator.findings,Validator.faults,rounds]
  exact ⟨same.accepts,((same.faults .root).map _).symm⟩

end Reordered
end Validator
end ApiReview.Schema

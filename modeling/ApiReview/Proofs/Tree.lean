import ApiReview.Document.Reader
import ApiReview.Proofs.Success

/-! Trees that documents are read into. Whatever the text repeats, an object of the tree has one
member a name, so a member found in the list is the one that its name leads to. -/
namespace ApiReview
namespace Json

theorem mem_of_lookup {name : String} {v : Json} {ms : List (String × Json)}
    (found : lookup name ms = some v) : (name,v) ∈ ms := by
  induction ms with
  | nil => simp [lookup] at found
  | cons m rest ih =>
    obtain ⟨k,w⟩ := m
    rw [lookup] at found
    split at found
    · next same => simp_all
    · exact List.mem_cons_of_mem _ (ih found)

theorem lookup_absent {name : String} {ms : List (String × Json)}
    (absent : name ∉ ms.map Prod.fst) : lookup name ms = none := by
  cases found : lookup name ms with
  | none => rfl
  | some v => exact absurd (List.mem_map_of_mem (f := Prod.fst) (mem_of_lookup found)) absent

theorem lookup_of_mem {name : String} {v : Json} {ms : List (String × Json)}
    (distinct : (ms.map Prod.fst).Nodup) (member : (name,v) ∈ ms) : lookup name ms = some v := by
  induction ms with
  | nil => cases member
  | cons m rest ih =>
    obtain ⟨k,w⟩ := m
    obtain ⟨absent,distinct⟩ := List.nodup_cons.mp distinct
    rw [lookup]
    rcases List.mem_cons.mp member with same | member
    · simp_all
    · have other : k ≠ name := by
        rintro rfl
        exact absent (List.mem_map.mpr ⟨_,member,rfl⟩)
      rw [if_neg other]
      exact ih distinct member

/-- Without repeated names a lookup and membership are the same. -/
theorem lookup_eq_some_iff {name : String} {v : Json} {ms : List (String × Json)}
    (distinct : (ms.map Prod.fst).Nodup) : lookup name ms = some v ↔ (name,v) ∈ ms :=
  ⟨mem_of_lookup,lookup_of_mem distinct⟩

theorem get?_eq_some_iff {name : String} {v root : Json} :
    root.get? name = some v ↔ ∃ ms, root = .object ms ∧ lookup name ms = some v := by
  cases root <;> simp [get?]

theorem members?_eq_some_iff {v : Json} {ms : List (String × Json)} :
    v.members? = some ms ↔ v = .object ms := by
  cases v <;> simp [members?,eq_comm]

theorem items?_eq_some_iff {v : Json} {items : List Json} :
    v.items? = some items ↔ v = .array items := by
  cases v <;> simp [items?,eq_comm]

theorem distinctItems_iff {items : List Json} :
    DistinctItems items ↔ ∀ v ∈ items, v.Distinct := by
  induction items with
  | nil => simp [DistinctItems]
  | cons v rest ih => simp [DistinctItems,ih]

theorem distinctMembers_iff {ms : List (String × Json)} :
    DistinctMembers ms ↔ ∀ m ∈ ms, m.2.Distinct := by
  induction ms with
  | nil => simp [DistinctMembers]
  | cons m rest ih => obtain ⟨k,v⟩ := m; simp [DistinctMembers,ih]

/-! Inserting keeps names apart: an old name keeps its place, a new one goes to the end. -/

theorem insert_names (name : String) (v : Json) (ms : List (String × Json)) :
    (insert name v ms).map Prod.fst =
      if name ∈ ms.map Prod.fst then ms.map Prod.fst else ms.map Prod.fst ++ [name] := by
  induction ms with
  | nil => simp [insert]
  | cons m rest ih =>
    obtain ⟨k,w⟩ := m
    rw [insert]
    by_cases same : k = name
    · simp [same]
    · simp only [if_neg same,List.map_cons,ih,List.mem_cons,Ne.symm same,false_or]
      split <;> rfl

theorem insert_new {name : String} {ms : List (String × Json)} (new : name ∉ ms.map Prod.fst)
    (v : Json) : insert name v ms = ms ++ [(name,v)] := by
  induction ms with
  | nil => rfl
  | cons m rest ih =>
    rw [List.map_cons,List.mem_cons,not_or] at new
    rw [insert,if_neg (Ne.symm new.1),ih new.2,List.cons_append]

theorem insert_distinct {name : String} {v : Json} {ms : List (String × Json)}
    (apart : (Json.object ms).Distinct) (value : v.Distinct) :
    (Json.object (insert name v ms)).Distinct := by
  obtain ⟨names,values⟩ := apart
  refine ⟨?_,?_⟩
  · rw [insert_names]
    split
    · exact names
    · next new =>
      refine List.nodup_append.mpr ⟨names,by simp,?_⟩
      intro a old b same
      rw [List.mem_singleton.mp same]
      rintro rfl
      exact new old
  · clear names
    induction ms with
    | nil => exact ⟨value,trivial⟩
    | cons m rest ih =>
      obtain ⟨k,w⟩ := m
      rw [insert]
      split
      · exact ⟨value,values.2⟩
      · exact ⟨values.1,ih values.2⟩

/-! Reading JSON. Each nesting level relies on the one below. -/

theorem andThen_ok {α β : Type} {s : Step α} {next : α → List Char → Step β} {r : β × List Char}
    (done : andThen s next = .ok r) : ∃ a rest, s = .ok (a,rest) ∧ next a rest = .ok r := by
  cases s with
  | error e => simp [andThen] at done
  | ok p => exact ⟨p.1,p.2,rfl,done⟩

theorem itemsFrom_distinct {item : List Char → Step Json}
    (below : ∀ cs v rest, item cs = .ok (v,rest) → v.Distinct) (budget : Nat) (first : Bool)
    (before : List Json) (cs : List Char) (v : Json) (rest : List Char)
    (distinct : ∀ w ∈ before, w.Distinct)
    (done : itemsFrom item budget first before cs = .ok (v,rest)) : v.Distinct := by
  induction budget generalizing first before cs with
  | zero => simp [itemsFrom,failAt] at done
  | succ budget ih =>
    have next (cs : List Char)
        (done : andThen (item cs) (fun v rest => itemsFrom item budget false (v :: before) rest) =
          .ok (v,rest)) : v.Distinct := by
      obtain ⟨w,left,one,done⟩ := andThen_ok done
      exact ih _ _ _ (by simpa using ⟨below _ _ _ one,distinct⟩) done
    simp only [itemsFrom] at done
    split at done
    · simp [failAt] at done
    · cases done
      exact distinctItems_iff.mpr (by simpa using distinct)
    · split at done
      · exact next _ done
      · split at done
        · split at done
          · simp [failAt] at done
          · simp [failAfter] at done
          · exact next _ done
        · simp [failAfter] at done

theorem member_distinct {item : List Char → Step Json}
    (below : ∀ cs v rest, item cs = .ok (v,rest) → v.Distinct) (cs : List Char)
    (m : String × Json) (rest : List Char) (done : member item cs = .ok (m,rest)) :
    m.2.Distinct := by
  unfold member at done
  split at done
  · obtain ⟨name,left,_,done⟩ := andThen_ok done
    split at done
    · simp [failAt] at done
    · obtain ⟨v,left,one,done⟩ := andThen_ok done
      cases done
      exact below _ _ _ one
    · simp [failAfter] at done
  · simp [failAfter] at done

theorem membersFrom_distinct {item : List Char → Step Json}
    (below : ∀ cs v rest, item cs = .ok (v,rest) → v.Distinct) (budget : Nat) (first : Bool)
    (before : List (String × Json)) (cs : List Char) (v : Json) (rest : List Char)
    (distinct : (Json.object before).Distinct)
    (done : membersFrom item budget first before cs = .ok (v,rest)) : v.Distinct := by
  induction budget generalizing first before cs with
  | zero => simp [membersFrom,failAt] at done
  | succ budget ih =>
    have next (cs : List Char)
        (done : andThen (member item cs) (fun m rest =>
          membersFrom item budget false (insert m.1 m.2 before) rest) = .ok (v,rest)) :
        v.Distinct := by
      obtain ⟨m,left,one,done⟩ := andThen_ok done
      exact ih _ _ _ (insert_distinct distinct (member_distinct below _ _ _ one)) done
    simp only [membersFrom] at done
    split at done
    · simp [failAt] at done
    · cases done
      exact distinct
    · split at done
      · exact next _ done
      · split at done
        · split at done
          · simp [failAt] at done
          · simp [failAfter] at done
          · exact next _ done
        · simp [failAfter] at done

theorem word_value {value v : Json} {ws cs rest : List Char}
    (done : word value ws cs = .ok (v,rest)) : v = value := by
  induction ws generalizing cs with
  | nil => cases done; rfl
  | cons w ws ih =>
    cases cs with
    | nil => simp [word,failAt] at done
    | cons c cs =>
      rw [word] at done
      split at done
      · exact ih done
      · simp [failAfter] at done

theorem scalar_distinct {α : Type} {s : Step α} {make : α → Json} {v : Json} {rest : List Char}
    (scalar : ∀ a, (make a).Distinct)
    (done : andThen s (fun a rest => .ok (make a,rest)) = .ok (v,rest)) : v.Distinct := by
  obtain ⟨a,_,_,done⟩ := andThen_ok done
  cases done
  exact scalar a

/-- What is read has no repeated names, at any nesting limit. -/
theorem value_distinct (depth : Nat) (cs : List Char) (v : Json) (rest : List Char)
    (done : value depth cs = .ok (v,rest)) : v.Distinct := by
  induction depth using Nat.strongRecOn generalizing cs v rest with
  | _ depth ih =>
    unfold value at done
    split at done
    · simp [failAt] at done
    · repeat' split at done
      all_goals first
        | exact word_value done ▸ trivial
        | exact scalar_distinct (by simp [Distinct]) done
        | exact itemsFrom_distinct (ih _ (by omega)) _ _ _ _ _ _ (by simp) done
        | exact membersFrom_distinct (ih _ (by omega)) _ _ _ _ _ _
            (by simp [Distinct,DistinctMembers]) done
        | simp [failAfter] at done

theorem read_distinct {text : String} {v : Json} (done : read text = .ok v) : v.Distinct := by
  unfold read at done
  split at done
  · next w one =>
    cases done
    unfold document at one
    split at one
    · simp at one
    · next value =>
      split at one
      · cases one; exact value_distinct _ _ _ _ value
      · simp [failAfter] at one
  · simp at done

end Json

/-! Reading YAML goes through values whose keys become texts. -/
namespace Yaml.Value

mutual

theorem toJson_distinct : ∀ (v : Value) (j : Json), toJson v = .ok j → j.Distinct
  | .null, j, done | .bool _, j, done | .string _, j, done => by
    simp only [toJson,Except.ok.injEq] at done
    subst done
    trivial
  | .number n, j, done => by
    obtain ⟨_,_,rfl⟩ := Success.map_iff.mp done
    trivial
  | .sequence items, j, done => by
    obtain ⟨js,all,rfl⟩ := Success.map_iff.mp done
    exact Json.distinctItems_iff.mpr (toItems_distinct items js all)
  | .mapping entries, j, done => by
    obtain ⟨ms,all,rfl⟩ := Success.map_iff.mp done
    exact toMembers_distinct entries [] ms ⟨.nil,trivial⟩ all
  | .tagged _ v, j, done => toJson_distinct v j done

theorem toItems_distinct : ∀ (items : List Value) (js : List Json), toItems items = .ok js →
    ∀ j ∈ js, j.Distinct
  | [], js, done => by cases done; simp
  | v :: rest, js, done => by
    obtain ⟨j,one,done⟩ := Success.bind_iff.mp done
    obtain ⟨others,all,done⟩ := Success.bind_iff.mp done
    cases done
    simpa using ⟨toJson_distinct v j one,toItems_distinct rest others all⟩

/-- The members that were read before carry over, so the recursion keeps them apart. -/
theorem toMembers_distinct : ∀ (entries : List (Value × Value)) (before ms : List (String × Json)),
    (Json.object before).Distinct → toMembers before entries = .ok ms → (Json.object ms).Distinct
  | [], before, ms, distinct, done => by cases done; exact distinct
  | (k,v) :: rest, before, ms, distinct, done => by
    obtain ⟨name,_,done⟩ := Success.bind_iff.mp done
    obtain ⟨j,one,done⟩ := Success.bind_iff.mp done
    exact toMembers_distinct rest _ ms (Json.insert_distinct distinct (toJson_distinct v j one)) done

end

end Yaml.Value

namespace Document

theorem yamlRoot_distinct {source : String} {root : Json} (done : yamlRoot source = .ok root) :
    root.Distinct := by
  unfold yamlRoot at done
  split at done
  · cases done
  · next v _ => exact Yaml.Value.toJson_distinct v root (Success.mapError_iff.mp done)

/-- An accepted document has an object as its root, without repeated names at any depth. -/
theorem read_distinct {source : String} {d : Document} (done : read source = .ok d) :
    d.source = source ∧ d.root.isObject = true ∧ d.root.Distinct := by
  unfold read at done
  split at done
  · cases done
  · next root one =>
    split at done
    · next object =>
      cases done
      refine ⟨rfl,object,?_⟩
      unfold readRoot at one
      split at one
      · split at one
        · next json => cases one; exact Json.read_distinct json
        · exact yamlRoot_distinct (Success.mapError_iff.mp one)
      · exact yamlRoot_distinct one
    · cases done

theorem read_of_root {text : String} {root : Json}
    (done : (read text).toOption.map (·.root) = some root) : read text = .ok ⟨text,root⟩ := by
  cases same : read text with
  | error e => simp [same,Except.toOption] at done
  | ok d =>
    obtain ⟨source,_,_⟩ := read_distinct same
    simp only [same,Except.toOption,Option.map_some,Option.some.injEq] at done
    rw [← source,← done]

end Document
end ApiReview

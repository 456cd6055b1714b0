import ApiReview.Proofs.Success
import ApiReview.Remote.Download

/-! What comes of a download. Whether a validator is had from a server, and if not why, is told by what
the server answers, and by whether JSON can be read and a validator be built from that. -/
namespace ApiReview.Remote

/-- A text stands under a URL. The mark that may stand in front of it is no part of it. -/
def Answers (server : Server) (url text : String) : Prop :=
  ∃ status body, server url = .answered status body ∧ 200 ≤ status ∧ status < 300 ∧
    (body = "\ufeff" ++ text ∨ body = text ∧ ∀ rest, text ≠ "\ufeff" ++ rest)

/-- A document in JSON stands under a URL. -/
def Serves (server : Server) (url : String) (document : Json) : Prop :=
  ∃ text, Answers server url text ∧ Json.read text = .ok document

/-- A schema stands under a URL from which a validator can be built, without regard to the identifier
that the schema has for itself. -/
def Delivers (server : Server) (url : String) (v : Schema.Validator) : Prop :=
  ∃ schema, Serves server url schema ∧
    Schema.Validator.build (retrieve server) (Schema.withoutSelfId schema) = .ok v

/-- Why no validator is had from a URL. -/
inductive Fails (server : Server) (url : String) : Failure → Prop where
  | noClient : server url = .unsent → Fails server url .noClient
  | unreachable : server url = .unreachable → Fails server url (.unreachable url)
  | refused {status : Nat} :
      server url = .brokenOff status ∨ (∃ body, server url = .answered status body) →
      ¬ (200 ≤ status ∧ status < 300) → Fails server url (.refused status url)
  | unreadable {status : Nat} : server url = .brokenOff status → 200 ≤ status → status < 300 →
      Fails server url (.unreadable url)
  | notJson {text : String} {e : Json.ReadError} : Answers server url text →
      Json.read text = .error e → Fails server url (.notJson url e)
  | invalid {schema : Json} {e : Schema.Error} : Serves server url schema →
      Schema.Validator.build (retrieve server) (Schema.withoutSelfId schema) = .error e →
      Fails server url (.invalid e)

section
variable {server : Server} {url text : String}

theorem isSuccess_iff {status : Nat} : isSuccess status = true ↔ 200 ≤ status ∧ status < 300 := by
  simp [isSuccess]

theorem withoutMark_iff {body : String} : withoutMark body = text ↔
    body = "\ufeff" ++ text ∨ body = text ∧ ∀ rest, text ≠ "\ufeff" ++ rest := by
  have marked (s : String) : body = "\ufeff" ++ s ↔ body.toList = '\ufeff' :: s.toList := by
    rw [← String.toList_inj,String.toList_append]
    rfl
  unfold withoutMark
  split
  · next rest front =>
    have whole : body = "\ufeff" ++ String.ofList rest := by simpa [marked] using front
    constructor
    · rintro rfl
      exact .inl whole
    · rintro (same | ⟨rfl,unmarked⟩)
      · rw [marked,front] at same
        rw [(List.cons.inj same).2,String.ofList_toList]
      · exact absurd whole (unmarked _)
  · next other =>
    constructor
    · rintro rfl
      exact .inr ⟨rfl,fun rest same => other rest.toList ((marked rest).mp same)⟩
    · rintro (same | ⟨same,_⟩)
      · exact absurd ((marked text).mp same) (other _)
      · exact same

theorem fetch_ok_iff : fetch server url = .ok text ↔ Answers server url text := by
  unfold fetch
  constructor
  · intro done
    split at done
    · cases done
    · cases done
    · cases done
    · next status body answered =>
      split at done
      · next success =>
        obtain ⟨least,most⟩ := isSuccess_iff.mp success
        exact ⟨status,body,answered,least,most,withoutMark_iff.mp (Except.ok.inj done)⟩
      · cases done
  · rintro ⟨status,body,answered,least,most,front⟩
    rw [answered]
    dsimp only
    rw [if_pos (isSuccess_iff.mpr ⟨least,most⟩),withoutMark_iff.mpr front]

/-- A status is refused whether or not there is a body behind it. -/
theorem fails_of_fetch {reason : Failure} (failed : fetch server url = .error reason) :
    Fails server url reason := by
  unfold fetch at failed
  split at failed
  · next unsent =>
    cases failed
    exact .noClient unsent
  · next unreachable =>
    cases failed
    exact .unreachable unreachable
  · next status brokenOff =>
    cases failed
    split
    · next success =>
      obtain ⟨least,most⟩ := isSuccess_iff.mp success
      exact .unreadable brokenOff least most
    · next refused => exact .refused (.inl brokenOff) (mt isSuccess_iff.mpr refused)
  · next status body answered =>
    split at failed
    · cases failed
    · next refused =>
      cases failed
      exact .refused (.inr ⟨body,answered⟩) (mt isSuccess_iff.mpr refused)

theorem retrieve_iff {document : Json} :
    retrieve server url = .ok document ↔ Serves server url document := by
  refine Success.bind_iff.trans (exists_congr fun text => ?_)
  rw [Success.mapError_iff,Success.mapError_iff,fetch_ok_iff]

theorem delivers_iff {v : Schema.Validator} :
    Delivers server url v ↔ download server url = .ok v := by
  unfold download
  simp only [Success.bind_iff,Success.mapError_iff,fetch_ok_iff]
  constructor
  · rintro ⟨schema,⟨text,answers,read⟩,built⟩
    exact ⟨text,answers,schema,read,built⟩
  · rintro ⟨text,answers,schema,read,built⟩
    exact ⟨schema,⟨text,answers,read⟩,built⟩

theorem fails_iff {reason : Failure} :
    Fails server url reason ↔ download server url = .error reason := by
  unfold download
  simp only [Success.bind_error_iff,Success.mapError_error_iff,Success.mapError_iff,fetch_ok_iff]
  constructor
  · intro fails
    cases fails with
    | noClient unsent => exact .inl (by rw [fetch,unsent])
    | unreachable unreachable => exact .inl (by rw [fetch,unreachable])
    | refused answered refused =>
      have refused := Bool.eq_false_iff.mpr (mt isSuccess_iff.mp refused)
      rcases answered with brokenOff | ⟨body,answered⟩
      · exact .inl (by simp [fetch,brokenOff,refused])
      · exact .inl (by simp [fetch,answered,refused])
    | unreadable brokenOff least most =>
      exact .inl (by simp [fetch,brokenOff,isSuccess_iff.mpr ⟨least,most⟩])
    | notJson answers fault => exact .inr ⟨_,answers,.inl ⟨_,fault,rfl⟩⟩
    | invalid serves refused =>
      obtain ⟨text,answers,read⟩ := serves
      exact .inr ⟨text,answers,.inr ⟨_,read,_,refused,rfl⟩⟩
  · rintro (early | ⟨text,answers,⟨e,fault,rfl⟩ | ⟨schema,read,e,refused,rfl⟩⟩)
    · exact fails_of_fetch early
    · exact .notJson answers fault
    · exact .invalid ⟨text,answers,read⟩ refused

end

end ApiReview.Remote

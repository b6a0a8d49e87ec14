/-
# The one header that is let through

Credentials have one written form, the header `Basic` with the base64 of the user and the
password joined by a colon (`BasicAuth.written`).  Each step in which the gate takes a header
apart has one text that it takes apart so: the two parts at the first separator
(`Gate.cut?_eq_some_iff`), the base64 of bytes and the bytes of a text.  So a header shows some
credentials only if it is their written form, and a user with a colon in it can be shown by no
header (`Gate.credentials?_eq_some_iff`).
-/

import Mathlib.Data.List.TakeWhile
import ServiceBroker.Http.Front
import ServiceBroker.Proofs.Encoding
import ServiceBroker.Proofs.Opening

namespace ServiceBroker

/-- Credentials as the value of a header. -/
def BasicAuth.written (auth : BasicAuth) : Bytes :=
  Bytes.ofText ("Basic " ++ Base64.encode (Bytes.ofText (auth.username ++ ":" ++ auth.password)))

namespace Http

section Values

variable {headers : Headers} {name text : String} {bytes : Bytes}

/-- The value of the first header with a name, whatever it consists of. -/
def Headers.first? (headers : Headers) (name : String) : Option Bytes :=
  (headers.find? fun (n, _) => Headers.fold n = Headers.fold name).map (·.2)

namespace Headers

/-- A visible byte is one of ASCII. -/
theorem lt_of_isVisible {b : UInt8} (visible : isVisible b = true) : b < 0x80 :=
  Bytes.forall_byte (p := fun b => isVisible b = true → b < 0x80) (by decide +kernel) b visible

/-- A header counts as the text that has its bytes. -/
theorem text?_eq_some_iff : headers.text? name = some text ↔
    headers.first? name = some (Bytes.ofText text) ∧ (Bytes.ofText text).all isVisible = true := by
  have found : headers.text? name = (headers.first? name).bind fun value =>
      if value.all isVisible then some (Bytes.latin value) else none := by
    rw [text?, first?]
    cases headers.find? fun (n, _) => fold n = fold name with
    | none => rfl
    | some header => rfl
  have plain {value : Bytes} (visible : value.all isVisible = true) :
      Bytes.ofText (Bytes.latin value) = value :=
    Bytes.ofText_latin fun b there => lt_of_isVisible (List.all_eq_true.1 visible b there)
  rw [found, Option.bind_eq_some_iff]
  constructor
  · rintro ⟨value, is, counts⟩
    split_ifs at counts with visible
    cases counts
    rw [plain visible]
    exact ⟨is, visible⟩
  · rintro ⟨is, visible⟩
    refine ⟨_, is, ?_⟩
    rw [if_pos visible, Bytes.ofText_injective (plain visible)]

/-- Visible characters of ASCII are visible bytes. -/
theorem all_isVisible_ofText
    (visible : ∀ c ∈ text.toList, 0x20 ≤ c.toNat ∧ c.toNat < 0x7f) :
    (Bytes.ofText text).all isVisible = true := by
  have all : ∀ n : Fin 0x7f, 0x20 ≤ n.val → isVisible (UInt8.ofNat n.val) = true := by decide
  rw [List.all_eq_true, Bytes.ofText_eq, Bytes.ofChars]
  intro b there
  obtain ⟨c, inside, is⟩ := List.mem_flatMap.1 there
  obtain ⟨low, high⟩ := visible c inside
  rw [Bytes.utf8EncodeChar_ascii (by omega), List.mem_singleton] at is
  exact is ▸ all ⟨c.toNat, high⟩ low

end Headers

end Values

namespace Gate

/-- A text is cut at the first of its separators: the part before has none. -/
theorem cut?_eq_some_iff {c : Char} {s before behind : String} :
    cut? c s = some (before, behind) ↔
      c ∉ before.toList ∧ s = before ++ String.singleton c ++ behind := by
  have joined : s = before ++ String.singleton c ++ behind ↔
      s.toList = before.toList ++ c :: behind.toList := by
    rw [← String.toList_inj]
    simp
  rw [joined]
  constructor
  · intro cut
    rw [cut?] at cut
    cases there : s.toList.dropWhile (· ≠ c) with
    | nil =>
      rw [there] at cut
      cases cut
    | cons d rest =>
      rw [there] at cut
      cases cut
      have stops : d = c := by
        have stops := List.head?_dropWhile_not (· ≠ c) s.toList
        rw [there] at stops
        simpa using stops
      rw [String.toList_ofList, String.toList_ofList, ← stops, ← there, stops,
        List.takeWhile_append_dropWhile]
      exact ⟨fun inside => by simpa using List.mem_takeWhile_imp inside, rfl⟩
  · rintro ⟨free, is⟩
    have passes : ∀ d ∈ before.toList, decide (d ≠ c) = true := fun d there =>
      decide_eq_true fun same => free (same ▸ there)
    rw [cut?, is, List.dropWhile_append_of_pos passes, List.takeWhile_append_of_pos passes,
      List.dropWhile_cons_of_neg (by simp), List.takeWhile_cons_of_neg (by simp), List.append_nil]
    simp only [String.ofList_toList]

variable {headers : Headers}

/-- The credentials of a header are written in visible bytes. -/
theorem visible_written (auth : BasicAuth) : auth.written.all Headers.isVisible = true := by
  apply Headers.all_isVisible_ofText
  rw [String.toList_append, List.forall_mem_append]
  constructor
  · have scheme : ("Basic ".toList.all fun c => 0x20 ≤ c.toNat ∧ c.toNat < 0x7f) = true := by decide
    exact fun c there => of_decide_eq_true (List.all_eq_true.1 scheme c there)
  · intro c there
    rw [Base64.encode, String.toList_ofList] at there
    exact (Base64.visible_encodeChars _ c there).imp_left Nat.le_of_lt

/-- **Headers show credentials just if the first of their name is the written form**, and a user
with a colon has none. -/
theorem credentials?_eq_some_iff {username password : String} :
    credentials? headers = some (username, password) ↔ ':' ∉ username.toList ∧
      headers.first? "Authorization" = some (BasicAuth.written ⟨username, password⟩) := by
  constructor
  · intro shown
    obtain ⟨value, is, shown⟩ := Option.bind_eq_some_iff.1 shown
    obtain ⟨⟨scheme, encoded⟩, cut, shown⟩ := Option.bind_eq_some_iff.1 shown
    dsimp only at shown
    split_ifs at shown with basic
    obtain ⟨raw, decoded, shown⟩ := Option.bind_eq_some_iff.1 shown
    obtain ⟨plain, read, cut'⟩ := Option.bind_eq_some_iff.1 shown
    obtain ⟨free, parts⟩ := cut?_eq_some_iff.1 cut'
    refine ⟨free, ?_⟩
    rw [(Headers.text?_eq_some_iff.1 is).1, BasicAuth.written,
      (cut?_eq_some_iff.1 cut).2, basic, Base64.decode?_eq_some_iff.1 decoded,
      Bytes.text?_eq_some_iff.1 read, parts]
    rfl
  · rintro ⟨free, is⟩
    have value : headers.text? "Authorization" =
        some ("Basic " ++ Base64.encode (Bytes.ofText (username ++ ":" ++ password))) :=
      Headers.text?_eq_some_iff.2 ⟨is, visible_written ⟨username, password⟩⟩
    have cut : cut? ' ' ("Basic " ++ Base64.encode (Bytes.ofText (username ++ ":" ++ password))) =
        some ("Basic", Base64.encode (Bytes.ofText (username ++ ":" ++ password))) :=
      cut?_eq_some_iff.2 ⟨by decide, rfl⟩
    have cut' : cut? ':' (username ++ ":" ++ password) = some (username, password) :=
      cut?_eq_some_iff.2 ⟨free, rfl⟩
    rw [credentials?, value]
    simp only [Option.bind_eq_bind, Option.bind_some, cut, if_true, Base64.decode?_encode,
      Bytes.text?_ofText, cut']

/-- What is asked for is the one header, where something is asked for. -/
theorem isAuthorized_iff {auth : BasicAuth} : isAuthorized auth headers = true ↔
    (auth.isEnabled = true → ':' ∉ auth.username.toList ∧
      headers.first? "Authorization" = some auth.written) := by
  rw [isAuthorized, Bool.or_eq_true, Bool.not_eq_true', decide_eq_true_iff,
    credentials?_eq_some_iff]
  cases auth.isEnabled with
  | false => exact iff_of_true (.inl rfl) nofun
  | true => simp

end Gate

namespace Front

/-- The front without its question for credentials. -/
def unguarded (front : Front) : Front := { front with auth := {} }

variable {front : Front} {request : Request} {m : Type → Type} [Monad m]

/-- Whom the gate takes for authorized gets what is behind the question for credentials. -/
theorem respond_of_authorized (answer : DatabaseHandler → (call : Handler.Call) → m call.Answer)
    (authorized : Gate.isAuthorized front.auth request.headers = true) :
    front.respond answer request = front.unguarded.respond answer request := by
  have passed : Gate.check front.auth request.headers = Gate.check {} request.headers := by
    have free : Gate.isAuthorized {} request.headers = true := rfl
    rw [Gate.check, Gate.check, authorized, free]
  have refused (route : Option Route) :
      front.refused? request route = front.unguarded.refused? request route := by
    rw [refused?, refused?, passed]
    rfl
  have decided : front.decide request = front.unguarded.decide request := by
    rw [decide, decide, refused]
    rfl
  rw [respond, respond, decided]

/-- Whom it does not is told so, and no handler is asked. -/
theorem respond_of_unauthorized [LawfulMonad m]
    (answer : DatabaseHandler → (call : Handler.Call) → m call.Answer)
    (gated : (Route.ofPath? request.target.path).any Route.isPublic = false)
    (unauthorized : Gate.isAuthorized front.auth request.headers = false) :
    front.respond answer request = pure (sent request.method
      { Response.ofJson 401 (.object []) with
        allow := allowed? request (Route.ofPath? request.target.path) }) := by
  have refused :
      front.refused? request (Route.ofPath? request.target.path) = some .unauthorized := by
    rw [refused?, gated, Gate.check, unauthorized]
    rfl
  rw [respond, decide, refused]
  exact map_pure _ _

/-- **Exactly one header is let through.**  Where credentials are asked for, a request is let
through just if its first `Authorization` header is, byte for byte, the written form of the
credentials, and never if the user has a colon in it; where none are asked for, it always is.  Let
through is a request that is answered as if none were asked for.  Every other one behind the gate
is answered with 401 and an empty object, and no handler is asked: the response is `pure` in
whatever monad handlers answer. -/
theorem one_header_let_through [LawfulMonad m] (front : Front)
    (answer : DatabaseHandler → (call : Handler.Call) → m call.Answer) {request : Request}
    (gated : (Route.ofPath? request.target.path).any Route.isPublic = false) :
    (Gate.isAuthorized front.auth request.headers = true ↔
      (front.auth.isEnabled = true → ':' ∉ front.auth.username.toList ∧
        request.headers.first? "Authorization" = some (Bytes.ofText ("Basic " ++
          Base64.encode (Bytes.ofText (front.auth.username ++ ":" ++ front.auth.password)))))) ∧
    (Gate.isAuthorized front.auth request.headers = true →
      front.respond answer request = ({ front with auth := {} } : Front).respond answer request) ∧
    (Gate.isAuthorized front.auth request.headers = false →
      front.respond answer request = pure (sent request.method
        { Response.ofJson 401 (.object []) with
          allow := allowed? request (Route.ofPath? request.target.path) })) :=
  ⟨Gate.isAuthorized_iff, respond_of_authorized answer, respond_of_unauthorized answer gated⟩

/-- A front whose password has colons, a space and a letter beyond ASCII. -/
def guarded : Front := { auth := ⟨"broker", "p: ä:"⟩ }

/-- A request for the catalog that shows a value as credentials, and a second one behind it. -/
def showing (value : String) : Request where
  method := .get
  target := { path := Bytes.ofText "/v2/catalog" }
  headers := [(versionHeader, Bytes.ofText "2.13"), ("authorization", Bytes.ofText value),
    ("Authorization", Bytes.ofText "Basic YnJva2VyOnA6IMOkOg==")]

/-- Its header is let through, and the same without its padding is not, whatever stands behind
it; handlers that count their calls are not called. -/
theorem padded_password_let_through :
    (Route.ofPath? (showing "Basic YnJva2VyOnA6IMOkOg==").target.path).any Route.isPublic =
      false ∧
    Gate.isAuthorized guarded.auth (showing "Basic YnJva2VyOnA6IMOkOg==").headers = true ∧
    Front.respond (m := StateM Nat) guarded (fun _ _ calls => (.error .database, calls + 1))
      (showing "Basic YnJva2VyOnA6IMOkOg") = pure (Response.ofJson 401 (.object [])) := by
  have gated (value : String) :
      (Route.ofPath? (showing value).target.path).any Route.isPublic = false := by
    have routed : (Route.ofPath? (Bytes.ofText "/v2/catalog")).any Route.isPublic = false := by
      decide +kernel
    exact routed
  have spelled : Bytes.ofText "Basic YnJva2VyOnA6IMOkOg==" = Bytes.ofText ("Basic " ++
      Base64.encode (Bytes.ofText (guarded.auth.username ++ ":" ++ guarded.auth.password))) := by
    decide +kernel
  have first (value : String) :
      (showing value).headers.first? "Authorization" = some (Bytes.ofText value) := by
    have skipped : Headers.fold versionHeader ≠ Headers.fold "Authorization" := by decide +kernel
    have folded : Headers.fold "authorization" = Headers.fold "Authorization" := by decide +kernel
    simp [Headers.first?, showing, skipped, folded]
  refine ⟨gated _, ?_, ?_⟩
  · refine (one_header_let_through (m := Id) guarded (fun _ _ => .error .database)
      (gated _)).1.2 fun _ => ⟨by decide, ?_⟩
    rw [first, spelled]
  · have missed : Gate.isAuthorized guarded.auth (showing "Basic YnJva2VyOnA6IMOkOg").headers =
        false := by
      rw [Bool.eq_false_iff, ne_eq, Gate.isAuthorized_iff, first]
      intro shown
      have same := Option.some.inj (shown (by decide)).2
      revert same
      decide +kernel
    exact (one_header_let_through guarded _ (gated _)).2.2 missed

end Front

end Http
end ServiceBroker

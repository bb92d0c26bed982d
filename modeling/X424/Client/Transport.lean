import X424.Client.Request

/-!
# Redirects and challenged requests

The last part of `transport.ts`: which answers count as a redirect to another
origin, and which requests a challenge may be about.
-/

namespace X424

def isCrossOriginRedirect (urls : UrlParser) (fromUrl : JsString) (toUrl : Option JsString) :
    Bool :=
  match toUrl.filter fun text => !text.isEmpty with
  | none => false
  | some toUrl =>
      match urls.parse fromUrl, urls.parse toUrl with
      | some source, some target => source.origin != target.origin
      | _, _ => true

/-- `REDIRECT_STATUSES`. -/
def redirectStatuses : List Nat := [301, 302, 303, 307, 308]

def Response.IsRedirect (response : Response) : Prop :=
  response.type = .opaqueRedirect ∨ response.status ∈ redirectStatuses

instance (response : Response) : Decidable response.IsRedirect :=
  inferInstanceAs (Decidable (_ ∨ _))

/-- `assertNoRedirect`, with the message of the client that calls it. -/
def assertNoRedirect (urls : UrlParser) (request : Request) (response : Response)
    (message : JsString) : Except JsError Unit :=
  if response.IsRedirect ∨
      isCrossOriginRedirect urls request.url (response.headers.get (js "location")) = true then
    .error ⟨message⟩
  else .ok ()

theorem assertNoRedirect_eq_ok {urls : UrlParser} {request : Request} {response : Response}
    {message : JsString} (h : assertNoRedirect urls request response message = .ok ()) :
    ¬ response.IsRedirect := by
  rw [assertNoRedirect] at h
  split at h
  · cases h
  · rename_i hnone
    exact fun hredirect => hnone (.inl hredirect)

def assertChallengeRequestMatch (urls : UrlParser)
    (requestMethod requestUrl challengeUrl resourceMethod resourceUri : JsString) :
    Except JsError Unit :=
  match urls.parse requestUrl, urls.parse challengeUrl, urls.parse resourceUri with
  | some request, some challenge, some resource =>
      if request.origin ≠ challenge.origin ∨ request.origin ≠ resource.origin then
        .error ⟨js "x424 challenge crossed an origin boundary"⟩
      else if resourceMethod ≠ toUpperCase requestMethod ∨ resource.href ≠ challenge.href then
        .error ⟨js "Human dependency challenge names another HTTP request"⟩
      else .ok ()
  | _, _, _ => .error ⟨js "x424 challenge URL is not absolute"⟩

theorem assertChallengeRequestMatch_eq_ok {urls : UrlParser}
    {requestMethod requestUrl challengeUrl resourceMethod resourceUri : JsString} :
    assertChallengeRequestMatch urls requestMethod requestUrl challengeUrl resourceMethod
        resourceUri = .ok () ↔
      ∃ request challenge resource, urls.parse requestUrl = some request ∧
        urls.parse challengeUrl = some challenge ∧ urls.parse resourceUri = some resource ∧
        request.origin = challenge.origin ∧ request.origin = resource.origin ∧
        resourceMethod = toUpperCase requestMethod ∧ resource.href = challenge.href := by
  rw [assertChallengeRequestMatch]
  cases urls.parse requestUrl with
  | none => exact ⟨nofun, nofun⟩
  | some request =>
      cases urls.parse challengeUrl with
      | none => exact ⟨nofun, nofun⟩
      | some challenge =>
          cases urls.parse resourceUri with
          | none => exact ⟨nofun, nofun⟩
          | some resource =>
              dsimp only
              split
              · rename_i horigin
                refine ⟨nofun, ?_⟩
                rintro ⟨_, _, _, ⟨⟩, ⟨⟩, ⟨⟩, hchallenge, hresource, -⟩
                exact absurd horigin (by simp [← hchallenge, hresource])
              · rename_i horigin
                split
                · rename_i hnamed
                  refine ⟨nofun, ?_⟩
                  rintro ⟨_, _, _, ⟨⟩, ⟨⟩, ⟨⟩, -, -, hmethod, hhref⟩
                  exact absurd hnamed (by simp [hmethod, hhref])
                · rename_i hnamed
                  push Not at horigin hnamed
                  exact ⟨fun _ => ⟨request, challenge, resource, rfl, rfl, rfl, horigin.1,
                    horigin.2, hnamed.1, hnamed.2⟩, fun _ => rfl⟩

end X424

import AwesomeNetwork.Networking.AwesomeError

/-! # Building a URL request and its cache key -/

namespace AwesomeNetwork

/-- `AwesomeRequesterHeader`. -/
abbrev AwesomeRequesterHeader := Dictionary String String

/-- `URLRequest`; the header fields are in the order of their first addition. -/
structure URLRequest where
  url : Option URL
  httpMethod : Option String
  httpBody : Option Data
  headerFields : List (String × String)
  timeoutInterval : TimeInterval
deriving DecidableEq, Repr

namespace URLRequest

/-- `URLRequest(url:)`, with the defaults of Foundation. -/
def ofURL (url : URL) : URLRequest where
  url := some url
  httpMethod := some "GET"
  httpBody := none
  headerFields := []
  timeoutInterval := 60

/-- `addValue(_:forHTTPHeaderField:)`: a field that is already there, compared
without regard to case, gets the value appended after a comma. Header names are ASCII
tokens, for which `String.toLower` is the comparison without case. -/
def addValue (request : URLRequest) (value field : String) : URLRequest :=
  if request.headerFields.any (fun entry => entry.1.toLower = field.toLower) then
    { request with
      headerFields := request.headerFields.map fun entry =>
        if entry.1.toLower = field.toLower then (entry.1, entry.2 ++ "," ++ value) else entry }
  else { request with headerFields := request.headerFields ++ [(field, value)] }

/-- The loop of `URLRequest.request` over the header keys. -/
def addHeaders (request : URLRequest) (headers : AwesomeRequesterHeader) : URLRequest :=
  headers.keys.foldl
    (fun current key => current.addValue ((headers.lookup key).getD "") key) request

/-- `URLRequest.request(with:method:bodyData:headers:timeoutAfter:)`. -/
def request (url : URL) (method : Option URLMethod) (bodyData : Option Data)
    (headers : Option AwesomeRequesterHeader) (timeout : TimeInterval) : URLRequest :=
  let urlRequest := ofURL url
  let urlRequest := match method with
    | some method => { urlRequest with httpMethod := some method.rawValue }
    | none => urlRequest
  let urlRequest := match bodyData with
    | some bodyData => { urlRequest with httpBody := some bodyData }
    | none => urlRequest
  let urlRequest := match headers with
    | some headers => urlRequest.addHeaders headers
    | none => urlRequest
  if timeout > 0 then { urlRequest with timeoutInterval := timeout } else urlRequest

/-- The text of the body in the key: empty when there is no body or it is not
valid UTF-8. -/
def bodyText (httpBody : Option Data) : String :=
  (httpBody.bind utf8String).getD ""

/-- `urlRequest.urlCacheKey`. -/
def urlCacheKey (urlRequest : URLRequest) : String :=
  match urlRequest.url with
  | none => ""
  | some url =>
      let hashValue := "?keyHash="
      let hashValue := hashValue ++ urlRequest.httpMethod.getD ""
      let hashValue := hashValue ++ bodyText urlRequest.httpBody
      url.path ++ hashValue

/-- Two requests agree on the fields that their cache key reads. -/
def SameResource (first second : URLRequest) : Prop :=
  first.url = second.url ∧ first.httpMethod = second.httpMethod ∧ first.httpBody = second.httpBody

theorem SameResource.trans {first second third : URLRequest} (left : first.SameResource second)
    (right : second.SameResource third) : first.SameResource third :=
  ⟨left.1.trans right.1, left.2.1.trans right.2.1, left.2.2.trans right.2.2⟩

/-- A header field does not change what the key reads. -/
theorem addValue_sameResource (request : URLRequest) (value field : String) :
    (request.addValue value field).SameResource request := by
  unfold addValue
  split <;> exact ⟨rfl, rfl, rfl⟩

/-- The headers do not change what the key reads. -/
theorem addHeaders_sameResource (request : URLRequest) (headers : AwesomeRequesterHeader) :
    (request.addHeaders headers).SameResource request := by
  unfold addHeaders
  generalize headers.keys = keys
  induction keys generalizing request with
  | nil => exact ⟨rfl, rfl, rfl⟩
  | cons key keys ih => exact (ih _).trans (request.addValue_sameResource _ key)

/-- Headers and the timeout leave what the cache key reads. -/
theorem request_sameResource (url : URL) (method : URLMethod) (bodyData : Option Data)
    (headers : Option AwesomeRequesterHeader) (timeout : TimeInterval) :
    (request url (some method) bodyData headers timeout).SameResource
      { ofURL url with httpMethod := some method.rawValue, httpBody := bodyData } := by
  have timed (current : URLRequest) :
      (if timeout > 0 then { current with timeoutInterval := timeout } else current).SameResource
        current := by
    split <;> exact ⟨rfl, rfl, rfl⟩
  cases headers with
  | none => cases bodyData <;> exact timed _
  | some headers =>
      cases bodyData <;> exact (timed _).trans (addHeaders_sameResource _ headers)

/-- Requests that agree on these fields have one key. -/
theorem SameResource.urlCacheKey {first second : URLRequest} (same : first.SameResource second) :
    first.urlCacheKey = second.urlCacheKey := by
  unfold URLRequest.urlCacheKey
  rw [same.1, same.2.1, same.2.2]

/-- The key of a request that was built here, by its arguments. -/
theorem urlCacheKey_request (url : URL) (method : URLMethod) (bodyData : Option Data)
    (headers : Option AwesomeRequesterHeader) (timeout : TimeInterval) :
    (request url (some method) bodyData headers timeout).urlCacheKey =
      url.path ++ ("?keyHash=" ++ method.rawValue ++ bodyText bodyData) := by
  rw [(request_sameResource url method bodyData headers timeout).urlCacheKey]
  rfl

/-- With the same method and body the key separates exactly the paths. -/
theorem urlCacheKey_eq_iff_path (first second : URL) (method : URLMethod) (bodyData : Option Data)
    (headers headers' : Option AwesomeRequesterHeader) (timeout timeout' : TimeInterval) :
    (request first (some method) bodyData headers timeout).urlCacheKey =
        (request second (some method) bodyData headers' timeout').urlCacheKey ↔
      first.path = second.path := by
  rw [urlCacheKey_request, urlCacheKey_request]
  exact String.append_left_inj _

end URLRequest

end AwesomeNetwork

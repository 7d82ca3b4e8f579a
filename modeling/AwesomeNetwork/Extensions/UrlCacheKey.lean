import AwesomeNetwork.Extensions.URLRequest
import AwesomeNetwork.Library.Concatenation

/-! # What the cache key of a request tells apart

The key is the path, a marker, the method and the text of the body, one after the other.
The marker begins with a question mark and no method begins another one, so a key of a
path without question marks can be taken apart again. A body that is not valid UTF-8
leaves no text in the key.
-/

namespace AwesomeNetwork

/-- A body decodes to a text when it is the encoding of that text. -/
theorem utf8String_eq_some_iff {data : Data} {text : String} :
    utf8String data = some text ↔ text.toByteArray = ⟨data.toArray⟩ := by
  unfold utf8String String.fromUTF8?
  split
  · next valid =>
      rw [Option.some_inj]
      constructor
      · rintro rfl
        rfl
      · intro same
        exact String.toByteArray_inj.mp same.symm
  · next invalid =>
      refine iff_of_false nofun fun same => invalid ?_
      rw [← same]
      exact text.isValidUTF8

/-- Bytes with the same text are the same. -/
theorem utf8String_inj {first second : Data} {text : String}
    (decodes : utf8String first = some text) (decodes' : utf8String second = some text) :
    first = second := by
  rw [utf8String_eq_some_iff] at decodes decodes'
  have same : first.toArray = second.toArray :=
    congrArg ByteArray.data (decodes.symm.trans decodes')
  exact congrArg Array.toList same

theorem utf8String_empty : utf8String [] = some "" := utf8String_eq_some_iff.mpr rfl

/-- No method name begins another one. -/
theorem URLMethod.prefixFree :
    Concatenation.PrefixFree fun method : URLMethod => method.rawValue.toList := by
  intro first second begins
  cases first <;> cases second <;> first | rfl | exact absurd begins (by decide)

namespace URLRequest

variable {body body' : Data}

/-- A body that decodes is in the key as its text. -/
theorem bodyText_of_some {text : String} (decodes : utf8String body = some text) :
    bodyText (some body) = text := by
  unfold bodyText
  rw [Option.bind_some, decodes]
  rfl

/-- A body that does not decode leaves nothing in the key. -/
theorem bodyText_of_none (fails : utf8String body = none) : bodyText (some body) = "" := by
  unfold bodyText
  rw [Option.bind_some, fails]
  rfl

/-- A body leaves text in the key when it is valid UTF-8 and not empty. -/
theorem bodyText_ne_empty_iff (filled : body ≠ []) :
    bodyText (some body) ≠ "" ↔ (utf8String body).isSome = true := by
  cases decoded : utf8String body with
  | none => exact iff_of_false (fun texted => texted (bodyText_of_none decoded)) nofun
  | some text =>
      rw [bodyText_of_some decoded]
      refine iff_of_true ?_ rfl
      rintro rfl
      exact filled (utf8String_inj decoded utf8String_empty)

/-- Different bodies have different texts when both are valid UTF-8. -/
theorem bodyText_ne (valid : (utf8String body).isSome = true)
    (valid' : (utf8String body').isSome = true) (different : body ≠ body') :
    bodyText (some body) ≠ bodyText (some body') := by
  obtain ⟨text, decoded⟩ := Option.isSome_iff_exists.mp valid
  obtain ⟨text', decoded'⟩ := Option.isSome_iff_exists.mp valid'
  rw [bodyText_of_some decoded, bodyText_of_some decoded']
  rintro rfl
  exact different (utf8String_inj decoded decoded')

/-- For one URL and one method the key separates exactly the texts of the bodies. -/
theorem urlCacheKey_eq_iff_bodyText (url : URL) (method : URLMethod)
    (bodyData bodyData' : Option Data) (headers headers' : Option AwesomeRequesterHeader)
    (timeout timeout' : TimeInterval) :
    (request url (some method) bodyData headers timeout).urlCacheKey =
        (request url (some method) bodyData' headers' timeout').urlCacheKey ↔
      bodyText bodyData = bodyText bodyData' := by
  rw [urlCacheKey_request, urlCacheKey_request, String.append_right_inj, String.append_right_inj]

/-- **The kernel of the cache key.** For paths without question marks, the keys of two
requests agree exactly when their paths and methods do and their bodies decode to the same
text, where a body that is missing or not valid UTF-8 counts as the empty text. -/
theorem urlCacheKey_eq_iff (url url' : URL) (method method' : URLMethod)
    (bodyData bodyData' : Option Data) (headers headers' : Option AwesomeRequesterHeader)
    (timeout timeout' : TimeInterval) (unmarked : '?' ∉ url.path.toList)
    (unmarked' : '?' ∉ url'.path.toList) :
    (request url (some method) bodyData headers timeout).urlCacheKey =
        (request url' (some method') bodyData' headers' timeout').urlCacheKey ↔
      url.path = url'.path ∧ method = method' ∧
        (bodyData.bind utf8String).getD "" = (bodyData'.bind utf8String).getD "" := by
  have taken (url : URL) (method : URLMethod) (text : String) :
      (url.path ++ ("?keyHash=" ++ method.rawValue ++ text)).toList =
        url.path.toList ++
          '?' :: ("keyHash=".toList ++ (method.rawValue.toList ++ text.toList)) := by
    have marker : "?keyHash=".toList = '?' :: "keyHash=".toList := rfl
    rw [String.toList_append, String.toList_append, String.toList_append, marker,
      List.cons_append, List.cons_append, List.append_assoc]
  rw [urlCacheKey_request, urlCacheKey_request, ← String.toList_inj, taken, taken,
    Concatenation.marked_inj unmarked unmarked', List.append_cancel_left_eq,
    URLMethod.prefixFree.append_inj, String.toList_inj, String.toList_inj]
  rfl

/-- A body that holds the marker and a method does not confuse the key. -/
theorem urlCacheKey_eq_iff_marked :
    (request ⟨none, none, "/items", none⟩ (some .PUT) (some "?keyHash=GET".toUTF8.toList) none
        15).urlCacheKey =
      (request ⟨none, none, "/items", none⟩ (some .GET) none none 15).urlCacheKey ↔
    "/items" = "/items" ∧ URLMethod.PUT = .GET ∧
      ((some "?keyHash=GET".toUTF8.toList).bind utf8String).getD "" =
        ((none : Option Data).bind utf8String).getD "" :=
  urlCacheKey_eq_iff ⟨none, none, "/items", none⟩ ⟨none, none, "/items", none⟩ .PUT .GET
    (some "?keyHash=GET".toUTF8.toList) none none none 15 15 (by decide) (by decide)

end URLRequest

end AwesomeNetwork

import AwesomeNetwork.Foundation

/-! # The URL of a string -/

namespace AwesomeNetwork

/-- `String.url(withQueryItems:)`. -/
def Foundation.urlOfString (foundation : Foundation) (string : String)
    (queryItems : Option (List URLQueryItem)) : Option URL :=
  let urlComponents := foundation.urlComponents string
  let urlComponents :=
    if ((queryItems.map List.length).getD 0) > 0 then
      urlComponents.map fun components => { components with queryItems := queryItems }
    else urlComponents
  urlComponents.bind foundation.url

end AwesomeNetwork

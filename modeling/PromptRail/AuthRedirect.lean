import PromptRail.Library.Url
import PromptRail.Library.UrlEncoded

/-!
# Redirects after a sign-in (`app/lib/authRedirect.js`)

A sign-in page is told in its query where to go afterwards. What it is told is checked as it stands, and what is gone to is what the URL
parser makes of it. The parser of hosts is given. A lone surrogate of a string counts as the replacement character that the parser takes
it for.
-/

namespace PromptRail

namespace AuthRedirect

open PyText (Text)
open Url (HostParser Origin)

def defaultAuthRedirectPath : Text := "/dashboard".toList

def defaultSignupRedirectPath : Text := "/onboarding".toList

/-- `decodeAuthRedirectPath`, of a parameter that may be absent. -/
def decodeAuthRedirectPath (value : Option Text) : Text :=
  match value with
  | none | some [] => []
  | some value =>
    let digits := value.map fun c => UrlEncoded.hexValue? (UInt8.ofNat c.toNat)
    if value.length % 2 != 0 || !value.all (fun c => c.toNat < 128) || !digits.all Option.isSome then []
    else UrlEncoded.textDecode (pairs (digits.filterMap id))
where
  /-- The bytes of hexadecimal digits. -/
  pairs : List Nat → List UInt8
    | high :: low :: rest => UInt8.ofNat (16 * high + low) :: pairs rest
    | _ => []

def localhost : Origin := ⟨.http, "localhost".toList, none⟩

/-- The check that is made before a value is parsed. -/
def isLocal (value : Text) : Bool :=
  "/".toList.isPrefixOf value && !"//".toList.isPrefixOf value && !value.contains '\\'

/-- `safeAuthRedirectPath`, of a string. -/
def safeAuthRedirectPath (parseHost : HostParser) (value fallback : Text) : Text :=
  if isLocal value then
    match Url.parse parseHost localhost value with
    | none => fallback
    | some parsed => if parsed.origin = localhost then parsed.pathname ++ parsed.search ++ parsed.hash else fallback
  else fallback

inductive Mode where
  | login
  | signup
deriving DecidableEq

structure Redirect where
  mode : Mode
  nextPath : Text
  signupPath : Text

/-- The path that a query asks for. -/
def requestedPath (search : Text) : Text :=
  let params := UrlEncoded.searchParams search
  match UrlEncoded.get params "next".toList with
  | some (c :: next) => c :: next
  | _ => decodeAuthRedirectPath (UrlEncoded.get params "next_path".toList)

/-- `resolveAuthRedirect`. -/
def resolveAuthRedirect (parseHost : HostParser) (search : Text) : Redirect :=
  let mode := if UrlEncoded.get (UrlEncoded.searchParams search) "mode".toList = some "signup".toList then .signup else .login
  let defaultPath := if mode = .signup then defaultSignupRedirectPath else defaultAuthRedirectPath
  let requested := requestedPath search
  let destination := safeAuthRedirectPath parseHost requested defaultPath
  { mode
    nextPath := if requested.isEmpty then defaultAuthRedirectPath else destination
    signupPath := if requested.isEmpty then defaultSignupRedirectPath else destination }

end AuthRedirect

end PromptRail

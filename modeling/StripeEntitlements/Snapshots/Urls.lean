import Mathlib.Data.List.TakeWhile
import StripeEntitlements.Identifiers
import StripeEntitlements.Statements

/-!
# Redirect URLs

`urlsplit`, `urlunsplit` and `urlencode` of `urllib.parse`, and the check that a redirect goes to
an origin over HTTP. Splitting raises where the authority is not one: brackets without an IPv6
address, or a character that stands for a delimiter under NFKC normalization.

## Main definitions

- `urlsplit` — the parts of a URL
- `publicHttpUrlIsStructurallySafe` — HTTP or HTTPS, with a host and no credentials

## Main results

- `urlsplit_urlunsplit` — a URL is split as it was joined
-/

namespace StripeEntitlements

/-! ## Hosts in brackets -/

/-- `IPv4Address(text)` succeeds. -/
def isIpv4Address (text : List Char) : Bool :=
  let octets := text.splitOn '.'
  octets.length = 4 && octets.all fun octet =>
    octet ≠ [] && octet.all Char.isDigit && octet.length ≤ 3 &&
      (octet.length = 1 || octet.head? ≠ some '0') &&
      octet.foldl (fun n c => n * 10 + (c.toNat - '0'.toNat)) 0 ≤ 255

/-- A group of an IPv6 address. -/
def isHextet (group : List Char) : Bool :=
  group ≠ [] && group.length ≤ 4 && group.all isHexDigit

/-- The groups on one side of `::`; a text that begins or ends there has none. -/
def outerGroups (groups : List (List Char)) : List (List Char) :=
  if groups = [[]] then [] else groups

/-- `IPv6Address(text)` succeeds, for a text without a zone. -/
def isIpv6Groups (text : List Char) : Bool :=
  let parts := text.splitOn ':'
  let last := parts.getLast?.getD []
  -- an IPv4 suffix stands for two groups
  let groups := if last.contains '.' then parts.dropLast ++ [['0'], ['0']] else parts
  let skips := (List.range groups.length).filter fun i =>
    0 < i && i + 1 < groups.length && groups[i]? = some []
  3 ≤ parts.length && (!last.contains '.' || isIpv4Address last) &&
    match skips with
    | [] => groups.length = 8 && groups.all isHextet
    | [skip] =>
        let kept := outerGroups (groups.take skip) ++ outerGroups (groups.drop (skip + 1))
        kept.length < 8 && kept.all isHextet
    | _ => false

/-- `IPv6Address(text)` succeeds. -/
def isIpv6Address (text : List Char) : Bool :=
  let address := text.takeWhile (· ≠ '%')
  let zone := text.drop address.length
  (zone = [] || (2 ≤ zone.length && !zone.tail.contains '%')) && isIpv6Groups address

example : isIpv6Address "::ffff:10.0.0.1%eth0".toList ∧ ¬isIpv6Address "1:2:3:4:5:6:7:8::".toList := by
  decide +kernel

/-- `v` with a version in base 16, a dot and anything. -/
def isIpvFuture (hostname : List Char) : Bool :=
  let version := hostname.tail.takeWhile isHexDigit
  let rest := hostname.tail.drop version.length
  version ≠ [] && rest.head? = some '.' && 2 ≤ rest.length

/-- `_check_bracketed_host`. -/
def checkBracketedHost (hostname : List Char) : Transaction Unit :=
  if hostname.head? = some 'v' then
    require (isIpvFuture hostname) (.valueError "IPvFuture address is invalid")
  else if isIpv4Address hostname then
    .error (.valueError "An IPv4 address cannot be in brackets")
  else
    let host := String.ofList hostname
    require (isIpv6Address hostname)
      (.valueError s!"'{host}' does not appear to be an IPv4 or IPv6 address")

/-- `_check_bracketed_netloc`. -/
def checkBracketedNetloc (netloc : List Char) : Transaction Unit :=
  let hostnameAndPort := (netloc.reverse.takeWhile (· ≠ '@')).reverse
  let beforeBracket := hostnameAndPort.takeWhile (· ≠ '[')
  if beforeBracket.length < hostnameAndPort.length then do
    let bracketed := hostnameAndPort.drop (beforeBracket.length + 1)
    let hostname := bracketed.takeWhile (· ≠ ']')
    let port := bracketed.drop (hostname.length + 1)
    require (beforeBracket = [] && (port = [] || port.head? = some ':'))
      (.valueError "Invalid IPv6 URL")
    checkBracketedHost hostname
  else
    checkBracketedHost (hostnameAndPort.takeWhile (· ≠ ':'))

/-! ## Splitting -/

/-- The characters past ASCII with one of `/?#@:` in their NFKC form. -/
def compatibilityDelimiters : List Nat :=
  [0x2047, 0x2048, 0x2049, 0x2100, 0x2101, 0x2105, 0x2106, 0x2a74, 0xfe13, 0xfe16, 0xfe55, 0xfe56,
    0xfe5f, 0xfe6b, 0xff03, 0xff0f, 0xff1a, 0xff1f, 0xff20]

/-- What `urlsplit` asks of an authority; the last check is `_checknetloc`. -/
def checkNetloc (netloc : List Char) : Transaction Unit := do
  require (netloc.contains '[' = netloc.contains ']') (.valueError "Invalid IPv6 URL")
  if netloc.contains '[' then
    checkBracketedNetloc netloc
  let shown := String.ofList netloc
  require (netloc.all fun c => c.toNat ∉ compatibilityDelimiters)
    (.valueError s!"netloc '{shown}' contains invalid characters under NFKC normalization")

/-- `SplitResult`. -/
structure SplitUrl where
  scheme : List Char
  netloc : List Char
  path : List Char
  query : List Char
  fragment : List Char

/-- A character of the authority of a URL. -/
def inAuthority (c : Char) : Bool := c ≠ '/' && c ≠ '?' && c ≠ '#'

/-- A character of a scheme. -/
def isSchemeChar (c : Char) : Bool := c.isAlphanum || c = '+' || c = '-' || c = '.'

/-- The scheme of a text, in lower case, and what follows its colon. -/
def splitScheme (chars : List Char) : List Char × List Char :=
  let name := chars.takeWhile (· ≠ ':')
  if name.length < chars.length && name.head?.any Char.isAlpha && name.all isSchemeChar then
    (name.map Char.toLower, chars.drop (name.length + 1))
  else
    ([], chars)

/-- `_splitnetloc`, where two slashes lead to an authority. -/
def splitNetloc (rest : List Char) : List Char × List Char :=
  if "//".toList.isPrefixOf rest then
    ((rest.drop 2).takeWhile inAuthority, (rest.drop 2).dropWhile inAuthority)
  else
    ([], rest)

/-- What follows an authority, at the first `#` and then at the first `?`. -/
def splitPath (scheme : List Char) (located : List Char × List Char) : SplitUrl :=
  let hierarchy := located.2.takeWhile (· ≠ '#')
  { scheme
    netloc := located.1
    path := hierarchy.takeWhile (· ≠ '?')
    query := (hierarchy.dropWhile (· ≠ '?')).drop 1
    fragment := (located.2.dropWhile (· ≠ '#')).drop 1 }

/-- `urlsplit(url)`. -/
def urlsplit (url : List Char) : Transaction SplitUrl := do
  -- leading blanks and line breaks anywhere are dropped before the text is split
  let chars := (url.dropWhile fun c => c.toNat ≤ 32).filter fun c =>
    c ≠ '\t' && c ≠ '\n' && c ≠ '\r'
  let split := splitScheme chars
  let located := splitNetloc split.2
  checkNetloc located.1
  pure (splitPath split.1 located)

/-- HTTP or HTTPS, with a host and no credentials. -/
def SplitUrl.isOriginSafe (parsed : SplitUrl) : Bool :=
  (parsed.scheme = "http".toList || parsed.scheme = "https".toList) && parsed.netloc ≠ [] &&
    !parsed.netloc.contains '@'

/-- `public_http_url_is_structurally_safe`. -/
def publicHttpUrlIsStructurallySafe (url : String) : Bool :=
  (urlsplit url.toList).toOption.any SplitUrl.isOriginSafe

/-- `checkout_success_base_url_is_safe`. -/
def checkoutSuccessBaseUrlIsSafe (url : String) : Bool :=
  publicHttpUrlIsStructurallySafe url &&
    (urlsplit url.toList).toOption.any fun parsed => parsed.query = [] && parsed.fragment = []

theorem publicHttpUrlIsStructurallySafe_iff {url : String} :
    publicHttpUrlIsStructurallySafe url = true ↔
      ∃ parsed, urlsplit url.toList = .ok parsed ∧ parsed.isOriginSafe = true := by
  unfold publicHttpUrlIsStructurallySafe
  cases urlsplit url.toList with
  | error e => simp [Except.toOption]
  | ok parsed => simp [Except.toOption]

/-! ## Joining -/

/-- `quote_plus(text, safe="{}")` of one character. -/
def quoteChar (c : Char) : List Char :=
  let hex (n : Nat) : Char := Char.ofNat (if n < 10 then 48 + n else 55 + n)
  if c.isAlphanum || c ∈ ['_', '.', '-', '~', '\x7b', '\x7d'] then
    [c]
  else if c = ' ' then
    ['+']
  else
    c.toString.toUTF8.toList.flatMap fun b => ['%', hex (b.toNat / 16), hex (b.toNat % 16)]

/-- `urlencode(query, safe="{}")`. -/
def urlencode (query : List (String × String)) : List Char :=
  let quoted (text : String) : List Char := text.toList.flatMap quoteChar
  ['&'].intercalate (query.map fun (key, value) => quoted key ++ '=' :: quoted value)

/-- `urlunsplit` of parts with an authority. -/
def urlunsplit (parts : SplitUrl) : List Char :=
  let query := if parts.query = [] then [] else '?' :: parts.query
  let fragment := if parts.fragment = [] then [] else '#' :: parts.fragment
  parts.scheme ++ "://".toList ++ parts.netloc ++ parts.path ++ query ++ fragment

/-! ## Round trip -/

/-- The parts of a URL over HTTP with an authority. -/
structure SplitUrl.Split (parts : SplitUrl) : Prop where
  scheme : parts.scheme = "http".toList ∨ parts.scheme = "https".toList
  netloc : ∀ c ∈ parts.netloc, inAuthority c = true
  checked : checkNetloc parts.netloc = .ok ()
  path : parts.path = [] ∨ ∃ rest, parts.path = '/' :: rest

theorem takeWhile_stop {α : Type} {p : α → Bool} {xs ys : List α} (hxs : ∀ x ∈ xs, p x = true)
    (hys : ∀ y ∈ ys.head?, p y = false) : (xs ++ ys).takeWhile p = xs := by
  rw [List.takeWhile_append_of_pos hxs]
  cases ys with
  | nil => simp
  | cons y ys => rw [List.takeWhile_cons_of_neg (by simp [hys y rfl]), List.append_nil]

/-- The path begins where the authority ends. -/
theorem path_of_tail (rest : List Char) :
    let path := ((rest.dropWhile inAuthority).takeWhile (· ≠ '#')).takeWhile (· ≠ '?')
    path = [] ∨ ∃ more, path = '/' :: more := by
  cases htail : rest.dropWhile inAuthority with
  | nil => exact .inl rfl
  | cons c tail =>
    have hstop : inAuthority c = false := by
      have hhead := List.head?_dropWhile_not inAuthority rest
      rw [htail] at hhead
      simpa using hhead
    have hcases : c = '/' ∨ c = '?' ∨ c = '#' := by
      simp only [inAuthority, Bool.and_eq_false_iff, decide_eq_false_iff_not, not_not] at hstop
      tauto
    rcases hcases with rfl | rfl | rfl
    · exact .inr ⟨_, rfl⟩
    · exact .inl rfl
    · exact .inl rfl

theorem urlsplit_split {url : List Char} {parts : SplitUrl} (h : urlsplit url = .ok parts)
    (hsafe : parts.isOriginSafe = true) : parts.Split := by
  simp only [SplitUrl.isOriginSafe, Bool.and_eq_true, Bool.or_eq_true, decide_eq_true_eq] at hsafe
  obtain ⟨⟨hscheme, hnetloc⟩, -⟩ := hsafe
  simp only [urlsplit, bind_eq_ok, pure_eq_ok] at h
  obtain ⟨_, hchecked, rfl⟩ := h
  -- the authority is not empty, so two slashes lead to it
  unfold splitPath splitNetloc at *
  dsimp only at hnetloc
  split at hnetloc
  case isTrue hslashes =>
    simp only [if_pos hslashes] at hchecked ⊢
    exact ⟨hscheme, fun c hc => List.mem_takeWhile_imp hc, hchecked, path_of_tail _⟩
  case isFalse => exact absurd rfl hnetloc

theorem splitScheme_http {scheme : List Char} (rest : List Char)
    (h : scheme = "http".toList ∨ scheme = "https".toList) :
    splitScheme (scheme ++ ':' :: rest) = (scheme, rest) := by
  have hname : (scheme ++ ':' :: rest).takeWhile (· ≠ ':') = scheme := by
    have hcolon : scheme.all (fun c => c ≠ ':') = true := by
      rcases h with rfl | rfl <;> rfl
    exact takeWhile_stop (List.all_eq_true.1 hcolon) (by simp)
  have hletters : (scheme.head?.any Char.isAlpha && scheme.all isSchemeChar) = true := by
    rcases h with rfl | rfl <;> decide
  have hlower : scheme.map Char.toLower = scheme := by
    rcases h with rfl | rfl <;> rfl
  have hlength : scheme.length < (scheme ++ ':' :: rest).length := by simp
  have hrest : (scheme ++ ':' :: rest).drop (scheme.length + 1) = rest := by
    rw [← List.drop_drop, List.drop_left]
    rfl
  unfold splitScheme
  dsimp only
  rw [hname, hrest, hlower, decide_eq_true hlength, Bool.true_and, if_pos hletters]

/-- **A URL is split as it was joined**, if it is visible and has a query. Nothing is dropped from
    a visible text, the scheme ends at the first colon, and the authority at the path or at the
    query. -/
theorem urlsplit_urlunsplit {parts : SplitUrl} (h : parts.Split) (hquery : parts.query ≠ [])
    (hvisible : ∀ c ∈ urlunsplit parts, 32 ≤ c.toNat) :
    ∃ again, urlsplit (urlunsplit parts) = .ok again ∧ again.scheme = parts.scheme ∧
      again.netloc = parts.netloc := by
  -- What follows the authority: path, query and fragment, whose first character ends it.
  let after := parts.path ++ ('?' :: parts.query ++
    if parts.fragment = [] then [] else '#' :: parts.fragment)
  have hjoined : urlunsplit parts =
      parts.scheme ++ ':' :: '/' :: '/' :: (parts.netloc ++ after) := by
    simp [urlunsplit, if_neg hquery, after]
  -- Nothing is dropped, since tabs and line ends are below the visible characters.
  have hkept : (urlunsplit parts).filter (fun c => c ≠ '\t' && c ≠ '\n' && c ≠ '\r') =
      urlunsplit parts := by
    rw [List.filter_eq_self]
    intro c hc
    have hlow := hvisible c hc
    simp only [Bool.and_eq_true, decide_eq_true_eq]
    refine ⟨⟨?_, ?_⟩, ?_⟩ <;> rintro rfl <;> exact absurd hlow (by decide)
  -- Nothing is stripped from the front, which is a letter of `http`.
  have hdropped : (urlunsplit parts).dropWhile (fun c => c.toNat ≤ 32) = urlunsplit parts := by
    rcases h.scheme with hscheme | hscheme <;> rw [hjoined, hscheme] <;> rfl
  -- The authority ends where the path or the query begins.
  have htaken : (parts.netloc ++ after).takeWhile inAuthority = parts.netloc := by
    apply takeWhile_stop h.netloc
    intro c hc
    rcases h.path with hpath | ⟨rest, hpath⟩
    all_goals
      simp only [after, hpath] at hc
      cases hc
      rfl
  have hlocated : (splitNetloc ('/' :: '/' :: (parts.netloc ++ after))).1 = parts.netloc := htaken
  refine ⟨splitPath parts.scheme (splitNetloc ('/' :: '/' :: (parts.netloc ++ after))), ?_, rfl,
    hlocated⟩
  unfold urlsplit
  dsimp only
  rw [hdropped, hkept, hjoined, splitScheme_http _ h.scheme, hlocated, h.checked]
  rfl

theorem urlencode_ne_nil {query : List (String × String)} (h : query ≠ []) :
    urlencode query ≠ [] := by
  intro hnil
  match query with
  | [] => exact h rfl
  | [(key, value)] => simp [urlencode, List.intercalate] at hnil
  | (key, value) :: next :: rest => simp [urlencode, List.intercalate] at hnil

end StripeEntitlements

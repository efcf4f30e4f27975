import IronicAnsible.Python.Value

/-!
# `urlparse`, as far as the driver looks into it

The driver asks two things of `six.moves.urllib.parse.urlparse`: the scheme of a config
drive location (is it `http` or `https`?) and the network location of the ramdisk's
callback URL, from which `_get_node_ip_heartbeat` cuts the host. Both come from
`urlsplit`, modelled here as CPython 3.9 writes it:

* the scheme is everything before the first `:` when that is non-empty and made of
  scheme characters, lower-cased;
* after a scheme, a `//` opens the network location, which runs to the first `/`, `?`
  or `#`; a location with one square bracket but not the other is a `ValueError`;
* the rest splits at the first `#` into path-and-query and fragment, and the former at
  the first `?`.

The scanner works on character lists. The two lemmas at the end compute it on a URL
built as `scheme://location/path`, which is what the heartbeat proof needs. The NFKC check
CPython makes of a non-ASCII network location is not modelled.
-/

namespace IronicAnsible.UrlParse

/-- `urllib.parse.scheme_chars`: ASCII letters, digits, `+`, `-` and `.`. -/
def isSchemeChar (c : Char) : Bool :=
  c.isAlpha || c.isDigit || c == '+' || c == '-' || c == '.'

/-- A character that ends the network location. -/
def isNetlocDelim (c : Char) : Bool :=
  c == '/' || c == '?' || c == '#'

/-- The result of `urlsplit`. -/
structure SplitResult where
  scheme : String
  netloc : String
  path : String
  query : String
  fragment : String
deriving Repr, DecidableEq

/-- The scheme and what follows its `:`, or no scheme and the whole URL. -/
def splitScheme (cs : List Char) : List Char × List Char :=
  let pre := cs.takeWhile (· != ':')
  match cs.dropWhile (· != ':') with
  | _ :: rest => if pre ≠ [] ∧ pre.all isSchemeChar then (pre.map Char.toLower, rest) else ([], cs)
  | [] => ([], cs)

/-- `_splitnetloc(url, 2)` after the `//`: the location and the rest. -/
def splitNetloc (cs : List Char) : List Char × List Char :=
  (cs.takeWhile (!isNetlocDelim ·), cs.dropWhile (!isNetlocDelim ·))

/-- `s.split(c, 1)` when `c in s`, and `(s, '')` otherwise. -/
def splitOnce (c : Char) (cs : List Char) : List Char × List Char :=
  (cs.takeWhile (· != c), (cs.dropWhile (· != c)).drop 1)

/-- The `ValueError` check of a location with unbalanced brackets. -/
def bracketsUnbalanced (netloc : List Char) : Bool :=
  ('[' ∈ netloc && ']' ∉ netloc) || (']' ∈ netloc && '[' ∉ netloc)

/-- `urllib.parse.urlsplit` on the characters of a URL. -/
def urlsplitChars (url : List Char) : Except Exc SplitResult :=
  let (scheme, rest) := splitScheme url
  let (netloc, rest) :=
    if rest.take 2 = ['/', '/'] then splitNetloc (rest.drop 2) else ([], rest)
  if bracketsUnbalanced netloc then .error (.valueError "Invalid IPv6 URL")
  else
    let (rest, fragment) := splitOnce '#' rest
    let (path, query) := splitOnce '?' rest
    .ok ⟨String.mk scheme, String.mk netloc, String.mk path, String.mk query,
      String.mk fragment⟩

/-- `urllib.parse.urlsplit(url)`. -/
def urlsplit (url : String) : Except Exc SplitResult :=
  urlsplitChars url.toList

/-! ## Computing the scanner on `scheme://location/path` -/

theorem splitScheme_append {sch rest : List Char} (hne : sch ≠ [])
    (hs : ∀ c ∈ sch, isSchemeChar c) :
    splitScheme (sch ++ ':' :: rest) = (sch.map Char.toLower, rest) := by
  -- no scheme character is a colon
  have hnc : ∀ c ∈ sch, (c != ':') = true := by
    intro c hc
    have := hs c hc
    revert this; simp only [isSchemeChar]; intro h
    simp only [bne_iff_ne, ne_eq]; rintro rfl; revert h; decide
  simp [splitScheme, List.takeWhile_append_of_pos hnc, List.dropWhile_append_of_pos hnc, hne,
    List.all_eq_true.mpr hs]

theorem splitNetloc_append {loc path : List Char} (hl : ∀ c ∈ loc, isNetlocDelim c = false)
    (hp : path = [] ∨ path.head? = some '/') :
    splitNetloc (loc ++ path) = (loc, path) := by
  have hl' : ∀ c ∈ loc, (!isNetlocDelim c) = true := by simpa using hl
  rcases hp with rfl | hp
  · simp [splitNetloc, List.takeWhile_eq_self_iff.mpr hl', List.dropWhile_eq_nil_iff.mpr hl']
  · obtain ⟨t, rfl⟩ : ∃ t, path = '/' :: t := by
      cases path with
      | nil => simp at hp
      | cons c t => simp at hp; exact ⟨t, by rw [hp]⟩
    have hslash : (!isNetlocDelim '/') = false := rfl
    simp only [splitNetloc, List.takeWhile_append_of_pos hl', List.dropWhile_append_of_pos hl',
      List.takeWhile_cons, List.dropWhile_cons, hslash]
    simp

/-- **The location of `scheme://location/path`.** A location without brackets and
without `/`, `?` or `#` is returned whole. -/
theorem urlsplit_netloc {sch loc path : List Char} (hne : sch ≠ [])
    (hs : ∀ c ∈ sch, isSchemeChar c) (hl : ∀ c ∈ loc, isNetlocDelim c = false)
    (hb : '[' ∉ loc ∧ ']' ∉ loc) (hp : path = [] ∨ path.head? = some '/') :
    (urlsplitChars (sch ++ ':' :: '/' :: '/' :: (loc ++ path))).map
      SplitResult.netloc = .ok (String.mk loc) := by
  have hbr : bracketsUnbalanced loc = false := by simp [bracketsUnbalanced, hb.1, hb.2]
  simp only [urlsplitChars, splitScheme_append hne hs, List.take, List.drop,
    splitNetloc_append hl hp, ite_true, hbr]
  rfl

end IronicAnsible.UrlParse

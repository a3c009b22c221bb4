import ContractDrill.Screen.Parameters.Reader

/-!
# Signatures

The names that a function without a name takes, up to the colon.  Names may have a default, those
with one behind those without; a slash ends the names that are given by their place alone, a star
begins those that are given by name alone, and a name behind two stars takes all the rest.
-/

namespace ContractDrill

namespace Parameters

namespace Grammar

open Reader

/-- Reads what ends a name: a comma, or the colon, which is left to be read. -/
def nameEnd : Reader Unit :=
  firstOf [mark ",", do if (← ahead (mark ":")).isNone then fail]

/-- Reads a name without a default. -/
def plainName : Reader Unit := do
  let _ ← name
  nameEnd

section

variable (read : Phrase → Reader Node)

/-- Reads a default. -/
def defaultValue : Reader Unit :=
  firstOf [do mark "="; let _ ← read .expression,
    explaining do
      mark "="
      if (← ahead (anyMark [")", ","])).isSome then blame (.signature .missingDefault) else fail]

/-- Reads a name with a default. -/
def defaultName : Reader Unit := do
  let _ ← name
  defaultValue read
  nameEnd

/-- Reads a name with or without a default. -/
def anyName : Reader Unit := do
  let _ ← name
  let _ ← attempt (defaultValue read)
  nameEnd

/-- Reads a slash and what ends it. -/
def slash : Reader Unit := do
  mark "/"
  nameEnd

/-- Reads names up to a slash, those without a default only. -/
def plainSlash : Reader Unit := do
  oneOrMore plainName
  slash

/-- Reads names up to a slash, the last of them with a default. -/
def defaultSlash : Reader Unit := do
  let _ ← repeated plainName
  oneOrMore (defaultName read)
  slash

/-- What is wrong with the name that takes the rest. -/
def mismapped : Reader Unit :=
  firstOf [do
      mark "**"
      let _ ← name
      mark "="
      blame (.signature .mappingDefault),
    do
      mark "**"
      let _ ← name
      mark ","
      let _ ← firstOf [do let _ ← name, do let _ ← anyMark ["*", "**", "/"]]
      blame (.signature .behindMapping)]

/-- Reads the name that takes the rest. -/
def mappingName : Reader Unit :=
  firstOf [explaining mismapped, do
    mark "**"
    plainName]

/-- What is wrong with the names behind a star. -/
def misstarred : Reader Unit :=
  firstOf [do
      mark "*"
      firstOf [mark ":", do
        mark ","
        let _ ← anyMark [":", "**"]]
      blame (.signature .nothingBehindStar),
    do
      mark "*"
      let _ ← name
      mark "="
      blame (.signature .starDefault),
    do
      mark "*"
      firstOf [plainName, mark ","]
      let _ ← repeated (anyName read)
      mark "*"
      firstOf [plainName, mark ","]
      blame (.signature .starTwice)]

/-- Reads the names from a star on. -/
def starNames : Reader Unit :=
  firstOf [explaining (misstarred read),
    do
      mark "*"
      plainName
      let _ ← repeated (anyName read)
      let _ ← attempt mappingName,
    do
      mark "*"
      mark ","
      oneOrMore (anyName read)
      let _ ← attempt mappingName,
    mappingName]

/-- What is wrong with a signature. -/
def missigned : Reader Unit :=
  firstOf [do
      let _ ← repeated plainName
      firstOf [defaultSlash read, oneOrMore (defaultName read)]
      plainName
      blame (.signature .plainBehindDefault),
    do
      let _ ← repeated plainName
      mark "("
      let _ ← commaSeparated name
      let _ ← attempt (mark ",")
      mark ")"
      blame (.signature .parenthesized),
    do
      mark "/"
      mark ","
      blame (.signature .nothingBeforeSlash),
    do
      firstOf [plainSlash, defaultSlash read]
      let _ ← repeated (anyName read)
      mark "/"
      blame (.signature .slashTwice),
    do
      let _ ← attempt (firstOf [plainSlash, defaultSlash read])
      let _ ← repeated (anyName read)
      mark "*"
      firstOf [mark ",", plainName]
      let _ ← repeated (anyName read)
      mark "/"
      blame (.signature .slashBehindStar),
    do
      oneOrMore (anyName read)
      mark "/"
      mark "*"
      blame (.signature .starAtSlash)]

/-- Reads the names that a function takes. -/
def signature : Reader Unit :=
  firstOf [explaining (missigned read),
    do
      plainSlash
      let _ ← repeated plainName
      let _ ← repeated (defaultName read)
      let _ ← attempt (starNames read),
    do
      defaultSlash read
      let _ ← repeated (defaultName read)
      let _ ← attempt (starNames read),
    do
      oneOrMore plainName
      let _ ← repeated (defaultName read)
      let _ ← attempt (starNames read),
    do
      oneOrMore (defaultName read)
      let _ ← attempt (starNames read),
    starNames read]

end

end Grammar

end Parameters

end ContractDrill

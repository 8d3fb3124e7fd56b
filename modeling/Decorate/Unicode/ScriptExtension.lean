import Decorate.Unicode.Script

/-!
# Script extensions

Some characters are used with a few scripts and no others. For these
Unicode lists the scripts, and the list takes the place of the script
they are assigned to; any other character extends to its own script
alone.
-/

namespace Decorate

namespace Unicode

/-- Codes of scripts, and the characters used with just these. -/
def extensionRows : List (String × List String) :=
  [("avst cari copt dupl elba geor glag gong goth grek hani latn lydi mahj perm shaw",
    ["b7"]),
   ("beng cyrl deva latn lisu thai toto", ["2bc"]),
   ("bopo latn", ["2c7 2c9-2cb 2d9"]),
   ("latn lisu", ["2cd"]),
   ("latn thai", ["2d7"]),
   ("cher copt cyrl grek latn perm sunu tale", ["300"]),
   ("cher cyrl grek latn osge sunu tale todr", ["301"]),
   ("cher cyrl latn tfng", ["302"]),
   ("glag latn sunu syrc thai", ["303"]),
   ("aghb cher copt cyrl goth grek latn osge syrc tfng todr", ["304"]),
   ("copt elba glag goth kana latn", ["305"]),
   ("cyrl grek latn perm tfng", ["306"]),
   ("copt dupl hebr latn perm syrc tale tfng todr", ["307"]),
   ("armn cyrl dupl goth grek hebr latn perm syrc tale tfng", ["308"]),
   ("latn tfng", ["309"]),
   ("dupl latn syrc", ["30a"]),
   ("cher cyrl latn osge", ["30b"]),
   ("cher latn tale", ["30c"]),
   ("latn sunu", ["30d 310"]),
   ("ethi latn", ["30e"]),
   ("cyrl latn todr", ["311"]),
   ("grek latn perm todr", ["313"]),
   ("cher dupl kana latn syrc tfng", ["323"]),
   ("cher dupl latn syrc", ["324"]),
   ("latn syrc", ["325 32e"]),
   ("latn sunu syrc", ["32d"]),
   ("cher latn syrc", ["330"]),
   ("aghb cher goth latn sunu syrc thai", ["331"]),
   ("grek", ["342 345 1dc0-1dc1"]),
   ("latn osge", ["358"]),
   ("aghb latn todr", ["35e"]),
   ("latn", ["363-36f"]),
   ("copt grek", ["374-375"]),
   ("cyrl perm", ["483"]),
   ("cyrl glag", ["484 487 2e43 a66f"]),
   ("cyrl latn", ["485-486"]),
   ("armn geor glag", ["589"]),
   ("arab gara nkoo rohg syrc thaa yezi", ["60c 61b"]),
   ("arab syrc thaa", ["61c"]),
   ("adlm arab gara nkoo rohg syrc thaa yezi", ["61f"]),
   ("adlm arab mand mani ougr phlp rohg sogd syrc", ["640"]),
   ("arab syrc", ["64b-655 670"]),
   ("arab thaa yezi", ["660-669"]),
   ("arab rohg", ["6d4"]),
   ("beng deva gran gujr guru knda latn mlym nand newa orya shrd taml telu tirh", ["951"]),
   ("beng deva gran gujr guru knda latn mlym newa orya taml telu tirh", ["952"]),
   ("beng deva dogr gong gonm gran gujr guru knda mahj mlym nand onao orya sind sinh sylo" ++
    " takr taml telu tirh",
    ["964"]),
   ("beng deva dogr gong gonm gran gujr gukh guru knda limb mahj mlym nand onao orya sind" ++
    " sinh sylo takr taml telu tirh",
    ["965"]),
   ("deva dogr kthi mahj", ["966-96f"]),
   ("beng cakm sylo", ["9e6-9ef"]),
   ("guru mult", ["a66-a6f"]),
   ("gujr khoj", ["ae6-aef"]),
   ("gran taml", ["be6-bf3 11301 11303 1133b-1133c 11fd0-11fd1 11fd3"]),
   ("knda nand tutg", ["ce6-cef"]),
   ("cakm mymr tale", ["1040-1049"]),
   ("geor glag latn", ["10fb"]),
   ("runr", ["16eb-16ed"]),
   ("buhd hano tagb tglg", ["1735-1736"]),
   ("mong phag", ["1802-1803 1805"]),
   ("beng deva gran knda", ["1cd0 1cd2"]),
   ("deva", ["1cd1 1cd4 1cdb 1cde-1cdf 1ce3-1ce8 1cec 1cee-1cf1"]),
   ("deva gran knda", ["1cd3"]),
   ("beng deva newa telu tirh", ["1cd5"]),
   ("beng deva telu", ["1cd6"]),
   ("deva newa shrd", ["1cd7"]),
   ("beng deva newa telu", ["1cd8"]),
   ("deva shrd", ["1cd9 1cdc-1cdd 1ce0"]),
   ("deva knda mlym orya taml telu", ["1cda"]),
   ("beng deva", ["1ce1 1cf5-1cf6"]),
   ("deva newa tirh", ["1ce2"]),
   ("deva nand newa", ["1ce9"]),
   ("beng deva shrd", ["1cea"]),
   ("deva newa", ["1ceb"]),
   ("beng deva newa shrd", ["1ced"]),
   ("beng deva gran knda mlym nand orya sinh telu tirh tutg", ["1cf2"]),
   ("deva gran", ["1cf3 1cf8-1cf9"]),
   ("deva gran knda tutg", ["1cf4"]),
   ("beng", ["1cf7"]),
   ("nand", ["1cfa"]),
   ("cyrl latn syrc", ["1df8"]),
   ("syrc", ["1dfa"]),
   ("latn mong phag", ["202f"]),
   ("adlm arab", ["204f"]),
   ("cari geor glag hung lyci orkh", ["205a"]),
   ("cari grek hung mero", ["205d"]),
   ("deva gran latn", ["20f0"]),
   ("copt latn", ["2e17"]),
   ("avst orkh", ["2e30"]),
   ("avst cari geor hung kthi lydi samr", ["2e31"]),
   ("dupl", ["2e3c 1bca0-1bca3"]),
   ("adlm arab hung", ["2e41"]),
   ("hani tang", ["2ff0-2fff 31ef"]),
   ("bopo hang hani hira kana mong yiii", ["3001"]),
   ("bopo hang hani hira kana mong phag yiii", ["3002"]),
   ("bopo hang hani hira kana", ["3003 3013 301c-301f 3030 3037 fe45-fe46"]),
   ("hani",
    ["3006 303e-303f 3190-319f 31c0-31e5 3220-3247 3280-32b0 32c0-32cb 32ff 3358-3370",
     "337b-337f 33e0-33fe 1d360-1d371 1f250-1f251"]),
   ("bopo hang hani hira kana mong tibt yiii", ["3008-3009"]),
   ("bopo hang hani hira kana lisu mong tibt yiii", ["300a-300b"]),
   ("bopo hang hani hira kana yiii", ["300c-3011 3014-301b 30fb ff61-ff65"]),
   ("bopo hani", ["302a-302d"]),
   ("hira kana", ["3031-3035 3099-309c 30a0 30fc ff70 ff9e-ff9f"]),
   ("hani hira kana", ["303c-303d"]),
   ("hani latn", ["a700-a707"]),
   ("deva dogr gujr guru khoj knda kthi mahj mlym modi nand shrd sind takr tirh tutg",
    ["a830-a832"]),
   ("deva dogr gujr guru khoj knda kthi mahj modi nand shrd sind takr tirh tutg",
    ["a833-a835"]),
   ("deva dogr gujr guru khoj kthi mahj modi sind takr tirh", ["a836-a837 a839"]),
   ("deva dogr gujr guru khoj kthi mahj modi shrd sind takr tirh", ["a838"]),
   ("beng deva tutg", ["a8f1"]),
   ("deva taml", ["a8f3"]),
   ("kali latn mymr", ["a92e"]),
   ("bugi java", ["a9cf"]),
   ("arab nkoo", ["fd3e-fd3f"]),
   ("arab thaa", ["fdf2 fdfd"]),
   ("cpmn cprt linb", ["10100-10101"]),
   ("cprt linb", ["10102 10137-1013f"]),
   ("cprt lina linb", ["10107-10133"]),
   ("arab copt", ["102e0-102fb"]),
   ("mani ougr", ["10af2"])]

/-- The codes and the characters of each row. -/
def extensions : List (List String × CharSet) :=
  extensionRows.map fun (codes, rows) =>
    ((CharSet.splitAt ' ' codes.toList).map String.ofList, .ofRows rows)

/-- The characters that have a list of scripts. -/
def extended : CharSet := extensions.foldl (fun s (_, listed) => s ∪ listed) .none

/-- The characters that are used with a script. -/
def Script.extension (script : Script) : CharSet :=
  extensions.foldl (fun s (codes, listed) => if codes.contains script.code then s ∪ listed else s)
    (script.set \ extended)

end Unicode

end Decorate

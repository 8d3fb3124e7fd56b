import Decorate.CharSet.Table

/-!
# Sets without regard to case

Characters that differ in case only fold to the same character, the
one of them that comes first. A folding lists, for each distance, the
characters that fold that far down. Unicode's folding is its simple
one, character by character, so `K`, `k` and the Kelvin sign agree
while `ß` stays apart from `ss`; the ASCII folding knows the letters
from `a` to `z` only.
-/

namespace Decorate

namespace CharSet

/-- The characters that fold a distance down, for each such distance. -/
abbrev Folding := List (Nat × CharSet)

/-- Every case variant of every character of the set: all is folded down, and then all
that folds to it is added. -/
def ignoringCase (folding : Folding) (s : CharSet) : CharSet :=
  let folded := s ∪ folding.foldr (fun (distance, upper) t => (s ∩ upper).down distance ∪ t) .none
  folded ∪ folding.foldr
    (fun (distance, upper) t => (folded ∩ upper.down distance).up distance ∪ t) .none

def Folding.ascii : Folding := [(32, range 0x61 0x7a)]

/-- The characters of Unicode that fold down, by their distance. -/
def foldRows : List (Nat × List String) :=
  [(1, ["101-12f/2 133-137/2 13a-148/2 14b-177/2 17a-17e/2 183-185/2 188 18c 192 199",
        "1a1-1a5/2 1a8 1ad 1b0 1b4-1b6/2 1b9 1bd 1c5 1c8 1cb 1ce-1dc/2 1df-1ef/2 1f2 1f5",
        "1f9-21f/2 223-233/2 23c 242 247-24f/2 371-373/2 377 3d9-3ef/2 3f8 3fb 461-481/2",
        "48b-4bf/2 4c2-4ce/2 4d1-52f/2 1c8a 1e01-1e95/2 1ea1-1eff/2 2184 2c61 2c68-2c6c/2",
        "2c73 2c76 2c81-2ce3/2 2cec-2cee/2 2cf3 a641-a649/2 a64d-a66d/2 a681-a69b/2",
        "a723-a72f/2 a733-a76f/2 a77a-a77c/2 a77f-a787/2 a78c a791-a793/2 a797-a7a9/2",
        "a7b5-a7c3/2 a7c8-a7ca/2 a7cd a7d1 a7d7-a7db/2 a7f6 fb06"]),
   (2, ["1c6 1c9 1cc 1f3"]), (7, ["3f9 1fec"]),
   (8, ["3d7 13f8-13fd 1f08-1f0f 1f18-1f1d 1f28-1f2f 1f38-1f3f 1f48-1f4d 1f59-1f5f/2",
        "1f68-1f6f 1f88-1f8f 1f98-1f9f 1fa8-1faf 1fb8-1fb9 1fd8-1fd9 1fe8-1fe9"]),
   (9, ["1fbc 1fcc 1ffc"]), (15, ["4cf"]), (16, ["2170-217f"]), (26, ["24d0-24e9"]),
   (28, ["214e"]), (31, ["3c2"]),
   (32, ["61-7a e0-f6 f8-fe 3b1-3b8 3ba-3bb 3bd-3c1 3c3-3cb 430-44f ff41-ff5a 10d70-10d85",
         "118c0-118df 16e60-16e7f"]),
   (34, ["1e922-1e943"]), (37, ["3ad-3af"]), (38, ["3ac"]),
   (39, ["10597-105a1 105a3-105b1 105b3-105b9 105bb-105bc"]),
   (40, ["10428-1044f 104d8-104fb"]), (47, ["3d5"]), (48, ["561-586 2c30-2c5f a7c4"]),
   (54, ["3d6"]), (56, ["1f7"]), (57, ["3d1"]), (59, ["1e9b"]), (62, ["3d0"]),
   (63, ["3cd-3ce"]), (64, ["3cc 10cc0-10cf2"]), (69, ["289"]), (71, ["28c"]),
   (74, ["1fba-1fbb"]), (79, ["1dd"]), (80, ["3f1 450-45f"]), (84, ["399"]),
   (86, ["3f0 1fc8-1fcb"]), (92, ["3f4"]), (96, ["3f5"]), (97, ["1f6"]),
   (100, ["1fda-1fdb"]), (112, ["1fea-1feb"]), (116, ["3b9 3f3"]), (121, ["178"]),
   (126, ["1ffa-1ffb"]), (128, ["1ff8-1ff9"]), (130, ["220 3fd-3ff"]), (163, ["23d"]),
   (195, ["243"]), (202, ["259"]), (203, ["25b"]), (205, ["256-257 260"]), (206, ["254"]),
   (207, ["263"]), (209, ["268"]), (210, ["253"]), (211, ["269 26f"]), (213, ["272"]),
   (214, ["275"]), (217, ["28a-28b"]), (218, ["280 283 288"]), (219, ["292"]),
   (300, ["17f"]), (743, ["39c"]), (775, ["3bc"]), (928, ["ab53"]),
   (3008, ["1c90-1cba 1cbd-1cbf"]), (3814, ["2c63"]), (6181, ["1c87"]), (6236, ["1c86"]),
   (6242, ["1c83-1c84"]), (6243, ["1c85"]), (6244, ["1c82"]), (6253, ["1c81"]),
   (6254, ["1c80"]), (7219, ["1fe3"]), (7235, ["1fd3"]), (7264, ["2d00-2d25 2d27 2d2d"]),
   (7289, ["1fbe"]), (7549, ["2126"]), (7615, ["1e9e"]), (8294, ["212b"]), (8415, ["212a"]),
   (10727, ["2c64"]), (10743, ["2c62"]), (10749, ["2c6e"]), (10780, ["2c6d"]),
   (10782, ["2c70"]), (10783, ["2c6f"]), (10792, ["2c66"]), (10795, ["2c65"]),
   (10815, ["2c7e-2c7f"]), (35266, ["a64a"]), (35267, ["a64b"]), (35332, ["a77d"]),
   (35384, ["a7c6"]), (38864, ["ab70-abbf"]), (42258, ["a7b0"]), (42261, ["a7b2"]),
   (42280, ["a78d"]), (42282, ["a7b1"]), (42305, ["a7ad"]), (42307, ["a7c5"]),
   (42308, ["a7aa a7ae"]), (42315, ["a7ac"]), (42319, ["a7ab"]), (42343, ["a7cb"]),
   (42561, ["a7dc"])]

def Folding.unicode : Folding := foldRows.map fun (distance, rows) => (distance, ofRows rows)

end CharSet

end Decorate

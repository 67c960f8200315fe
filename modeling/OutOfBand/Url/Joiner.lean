import OutOfBand.Text.Marks

/-! # Joiners

Two invisible characters say whether the letters beside them join. A label may hold one behind a mark that
takes away a vowel, and the one that keeps letters apart also where the letters would join.
-/
namespace OutOfBand.Url

/-- Letters that join the letter behind them. -/
def onwardLines : List String := [
  "620 626 628 62a-62e 633-63f 641-647 649-64a 66e-66f 678-687 69a-6bf 6c1-6c2 6cc 6ce 6d0-6d1 6fa-6fc 6ff 712-714",
  "71a-71d 71f-727 729 72b 72d-72e 74e-758 75c-76a 76d-770 772 775-777 77a-77f 7ca-7ea 841-845 848 84a-853 855 860",
  "862-865 868 886 889-88d 88f 8a0-8a9 8af-8b0 8b3-8b8 8ba-8c8 1807 1820-1878 1887-18a8 18aa a840-a871 a872",
  "10ac0-10ac4 10acd 10ad3-10ad6 10ad7 10ad8-10adc 10ade-10ae0 10aeb-10aee 10b80 10b82 10b86-10b88 10b8a-10b8b",
  "10b8d 10b90 10bad-10bae 10d00 10d01-10d21 10d23 10ec3-10ec4 10ec6-10ec7 10f30-10f32 10f34-10f44 10f51-10f53",
  "10f70-10f73 10f76-10f81 10fb0 10fb2-10fb3 10fb8 10fbb-10fbc 10fbe-10fbf 10fc1 10fc4 10fca 10fcb 1e900-1e943"]

/-- Letters that join the letter before them. -/
def backwardLines : List String := [
  "620 622-625 626 627 628 629 62a-62e 62f-632 633-63f 641-647 648 649-64a 66e-66f 671-673 675-677 678-687 688-699",
  "69a-6bf 6c0 6c1-6c2 6c3-6cb 6cc 6cd 6ce 6cf 6d0-6d1 6d2-6d3 6d5 6ee-6ef 6fa-6fc 6ff 710 712-714 715-719 71a-71d",
  "71e 71f-727 728 729 72a 72b 72c 72d-72e 72f 74d 74e-758 759-75b 75c-76a 76b-76c 76d-770 771 772 773-774 775-777",
  "778-779 77a-77f 7ca-7ea 840 841-845 846-847 848 849 84a-853 854 855 856-858 860 862-865 867 868 869-86a 870-882",
  "886 889-88d 88e 88f 8a0-8a9 8aa-8ac 8ae 8af-8b0 8b1-8b2 8b3-8b8 8b9 8ba-8c8 1807 1820-1878 1887-18a8 18aa",
  "a840-a871 10ac0-10ac4 10ac5 10ac7 10ac9-10aca 10ace-10ad2 10ad3-10ad6 10ad8-10adc 10add 10ade-10ae0 10ae1 10ae4",
  "10aeb-10aee 10aef 10b80 10b81 10b82 10b83-10b85 10b86-10b88 10b89 10b8a-10b8b 10b8c 10b8d 10b8e-10b8f 10b90",
  "10b91 10ba9-10bac 10bad-10bae 10d01-10d21 10d22 10d23 10ec2 10ec3-10ec4 10ec6-10ec7 10f30-10f32 10f33",
  "10f34-10f44 10f51-10f53 10f54 10f70-10f73 10f74-10f75 10f76-10f81 10fb0 10fb2-10fb3 10fb4-10fb6 10fb8",
  "10fb9-10fba 10fbb-10fbc 10fbd 10fbe-10fbf 10fc1 10fc2-10fc3 10fc4 10fc9 10fca 1e900-1e943"]

def onward : List Text.Run := Text.Run.ofLines onwardLines

def backward : List Text.Run := Text.Run.ofLines backwardLines

/-- The combining class of marks that take away a vowel. -/
def vowelKiller : Nat := 9

def isSeparator (c : Char) : Bool := c.toNat == 0x200C

def isJoiner (c : Char) : Bool := isSeparator c || c.toNat == 0x200D

/-- The nearest of some characters that is no mark. -/
def nearest? (cs : List Char) : Option Char := (cs.dropWhile Text.isMark).head?

def isIn (runs : List Text.Run) (c : Char) : Bool := (Text.runOf? runs c).isSome

/-- Whether a joiner may stand here; `before` holds the characters in front, the latest first. -/
def mayJoin (before : List Char) (c : Char) (after : List Char) : Bool :=
  (before.head?.map Text.combiningClass) == some vowelKiller ||
    (isSeparator c && ((nearest? before).map (isIn onward)).getD false &&
      ((nearest? after).map (isIn backward)).getD false)

/-- Whether every joiner of a label may stand where it does. -/
def joinersFit (before : List Char) : List Char → Bool
  | [] => true
  | c :: rest => (!isJoiner c || mayJoin before c rest) && joinersFit (c :: before) rest

end OutOfBand.Url

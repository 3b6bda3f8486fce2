/-!
# Names of files

Sockets and scripts are found under the names of files. A name is read part by part. A slash too
many makes no difference to it, and neither does a part that is a single dot, unless it comes first
in a name that does not begin at the root.
-/

namespace PathPolicy

namespace FileName

/-- What the slashes of a name divide it into, at least one part. -/
def split (name : List Char) : List (List Char) :=
  name.foldr
    (fun c parts => if c = '/' then [] :: parts else (c :: parts.headD []) :: parts.tail) [[]]

/-- The parts that count. A name that begins at the root has an empty one in front. -/
def parts (name : String) : List (List Char) :=
  match split name.toList with
  | [] | [[]] => []
  | first :: rest => first :: rest.filter fun part => part ≠ [] ∧ part ≠ ['.']

/-- Whether nothing but a directory is found under a name, because nothing stands for a file at
its end. -/
def endsInDirectory (name : String) : Bool :=
  match (split name.toList).getLast? with
  | some [] | some ['.'] => true
  | _ => false

end FileName

/-- The names are taken for names of one file. -/
def SameFile (name name' : String) : Prop := FileName.parts name = FileName.parts name'

instance (name name' : String) : Decidable (SameFile name name') :=
  inferInstanceAs (Decidable (FileName.parts name = FileName.parts name'))

@[refl] theorem SameFile.refl (name : String) : SameFile name name := rfl

end PathPolicy

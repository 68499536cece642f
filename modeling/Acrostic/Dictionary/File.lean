import Acrostic.Dictionary
import Acrostic.Storage.Store

namespace Acrostic.Dictionary

-- The dictionary in a file, which is named as its source
def load (store : Storage.Store) (path : Storage.Path) : Except Rule.Error Dictionary :=
  match store.read path with
  | .error fault => .error (.dictionary path.text (.unreadable fault))
  | .ok content =>
    match String.fromUTF8? content with
    | none => .error (.dictionary path.text .notUtf8)
    | some text => parse path.text text.toList

end Acrostic.Dictionary

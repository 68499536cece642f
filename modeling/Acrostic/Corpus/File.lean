import Acrostic.Corpus.Reader
import Acrostic.Storage.Store

namespace Acrostic.Corpus.Reader

open Storage (Fault Path Store)

def ofBytes (guess : List UInt8 → Encoding) (content : ByteArray) : Reader :=
  ofContent guess content.data.toList

-- Opens a file, whose encoding is found from its content
def openFileBy (guess : List UInt8 → Encoding) (store : Store) (path : Path) :
    Except Fault Reader :=
  (store.read path).map (ofBytes guess)

-- Opens a file in the given encoding. A folder has no content that could be read that way.
def openAs (encoding : Encoding) (store : Store) (path : Path) : Except Fault Reader :=
  match store.look path with
  | .error fault => .error fault
  | .ok (.folder _) => .error .noDevice
  | .ok (.file content) => .ok (withEncoding encoding content.data.toList)

end Acrostic.Corpus.Reader

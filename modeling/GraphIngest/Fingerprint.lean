import GraphIngest.Digest.Blake3
import GraphIngest.Model.Codec

/-!
# Fingerprints

The fingerprint of a model is the hash of its compact text, which holds every field of the model in
a fixed order, so that models with one fingerprint have one text unless the hash collides.
-/

namespace GraphIngest

/-- The canonical text of a model. -/
def Model.canonicalText (m : Model) : String := m.toJson.compact

/-- The hash of the canonical text. -/
def Model.fingerprint (m : Model) : String := Digest.hexHash m.canonicalText

end GraphIngest

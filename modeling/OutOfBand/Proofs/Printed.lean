import OutOfBand.Proofs.Document
import OutOfBand.Proofs.Text.Segments
import OutOfBand.Proofs.Url.Resolution
import OutOfBand.Proofs.Yaml.Lines

/-! # The printed document

What a report prints is one document that ends in one line break, whatever is attached to it. As JSON it is read as the
report's value; as YAML it starts with the verdict, no other entry is written like one of the verdict, and no line of it
ends the document.
-/
namespace OutOfBand

namespace Report

end Report

end OutOfBand

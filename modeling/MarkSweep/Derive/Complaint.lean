namespace MarkSweep.Derive

inductive Complaint where
  | unsupportedAttribute
  | unsupportedFieldAttribute
  | union
  | argumentsExpected (hasValue : Bool)
  | expected (description : String) (atEnd : Bool)
deriving DecidableEq, Repr

def Complaint.message : Complaint → String
  | unsupportedAttribute => "unsupported attribute"
  | unsupportedFieldAttribute => "unsupported field attribute"
  | union => "`Trace` must be manually implemented for unions"
  | argumentsExpected false => "expected attribute arguments in parentheses: #[zinc_gc(...)]"
  | argumentsExpected true => "expected parentheses: #[zinc_gc(...)]"
  | expected description atEnd =>
    if atEnd then "unexpected end of input, " ++ description else description

end MarkSweep.Derive

import LineCalculator.Main
import LineCalculator.Proofs.Expr.Arithmetic
import LineCalculator.Proofs.Expr.Extension
import LineCalculator.Proofs.Expr.Limit
import LineCalculator.Proofs.Expr.PostOrder
import LineCalculator.Proofs.Line.Records
import LineCalculator.Proofs.Line.Response
import LineCalculator.Proofs.Run.Agreement
import LineCalculator.Proofs.Run.Logging
import LineCalculator.Proofs.Session.Unambiguous
import LineCalculator.Proofs.Token.Boundary
import LineCalculator.Proofs.Token.Stepping

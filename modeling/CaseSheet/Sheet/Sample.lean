import CaseSheet.TestCase
/-!
# The sample sheet

A small sheet to start from: public endpoints, a login, and a stopped server.
-/

namespace CaseSheet.Sheet

/-- Where the sample sheet goes if no path is given. -/
def sampleFileName : String := "test_cases_template.csv"

/-- The cases of the sample sheet. -/
def sample : List TestCase := [
  { id := "TC001", category := "공개API", name := "트렌드 데이터 조회", precondition := "서버실행"
    steps := "GET /api/v1/trends", expected := "200 OK JSON 배열", notes := "기본 API 테스트" },
  { id := "TC002", category := "공개API", name := "존재하지 않는 엔드포인트", precondition := "서버실행"
    steps := "GET /api/v1/nonexistent", expected := "404 Not Found", notes := "에러 처리 테스트" },
  { id := "TC003", category := "공개API", name := "인기 스킬 조회", precondition := "서버실행"
    steps := "GET /api/v1/skills/popular", expected := "200 OK JSON 배열"
    notes := "스킬 데이터 테스트" },
  { id := "TC009", category := "인증", name := "로그인", precondition := "회원가입 완료"
    steps := "POST /api/v1/auth/login\n\x7b\"email\": \"test@example.com\", " ++
      "\"password\": \"password123\"\x7d"
    expected := "200 OK, JSON 토큰 반환", notes := "토큰은 이후 요청에 사용" },
  { id := "TC013", category := "장애", name := "서버 다운", precondition := "서버중지"
    steps := "GET /api/v1/trends", expected := "연결실패", notes := "연결 실패 처리" }]

end CaseSheet.Sheet
